/-!
# Names of characters: notations

The names of notations and pictures, U+1D000 to U+10FFFF (Unicode 14).  `CharacterName` says how
the table is read.
-/

namespace Laminar.Text

/-- Names of notations and pictures, U+1D000 to U+10FFFF. -/
def notationNames : String :=
  "1D000:0BYZANTINE kt w cx;3DASEIA;3az;3OXEIA EKFONITIKON;4DIPLI;3VAREIA EKFONITIKON;4DIPLI
    3KATHISTI;3SYRMATIKI;3PARAKLITIKI;3YPOKRISIS;4DIPLI;3KREMASTI;3APESO EKFONITIKON
    3EXO EKFONITIKON;3TELEIA;3KENTIMATA;3APOSTROFOS;4DIPLI;3SYNEVMA;3THITA;3OLIGON gu;3GORGON gu
    3PSILON;3CHAMILON;3VATHY;3ISON gu;3KENTIMA gu;3KENTIMATA gu;3SAXIMATA;3PARICHON
    3STAVROS APODEXIA;3OXEIAI gu;3VAREIAI gu;3APODERMA gu;3APOTHEMA;3KLASMA;3REVMA;3PIASMA gu
    3TINAGMA;3ANATRICHISMA;3SEISMA;3SYNAGMA gu;4META STAVROU;3OYRANISMA gu;3THEMA;3LEMOI;3DYO;3TRIA
    3TESSERA;3KRATIMATA;3APESO EXO NEO;3FTHORA gu;3IMIFTHORA;3TROMIKON gu;3KATAVA TROMIKON
    3PELASTON;3PSIFISTON;3KONTEVMA;3CHOREVMA gu;3RAPISMA;3PARAKALESMA gu;3PARAKLITIKI gu;3ICHADIN
    3NANA;3PETASMA;3KONTEVMA ALLO;3TROMIKON ALLO;3STRAGGISMATA;3GRONTHISMATA;3ISON NEO;3OLIGON NEO
    3OXEIA NEO;3PETASTI;3KOUFISMA;3PETASTOKOUFISMA;3KRATIMOKOUFISMA;3PELASTON NEO
    3KENTIMATA NEO ANO;3KENTIMA NEO ANO;3YPSILI;3APOSTROFOS NEO;3APOSTROFOI SYNDESMOS NEO;3YPORROI
    3KRATIMOYPORROON;3ELAFRON;3CHAMILI;3MIKRON ISON;3VAREIA NEO;3PIASMA NEO;3PSIFISTON NEO;3OMALON
    3ANTIKENOMA;3LYGISMA;3PARAKLITIKI NEO;3PARAKALESMA NEO;3ETERON PARAKALESMA;3KYLISMA
    3ANTIKENOKYLISMA;3TROMIKON NEO;3EKSTREPTON;3SYNAGMA NEO;3SYRMA;3CHOREVMA NEO;3EPEGERMA
    3SEISMA NEO;3XIRON KLASMA;3TROMIKOPSIFISTON;3PSIFISTOLYGISMA;3TROMIKOLYGISMA
    3TROMIKOPARAKALESMA;3PSIFISTOPARAKALESMA;3TROMIKOSYNAGMA;3PSIFISTOSYNAGMA;3GORGOSYNTHETON
    3ARGOSYNTHETON;3ETERON ARGOSYNTHETON;3OYRANISMA NEO;3THEMATISMOS ESO;4EXO;3THEMA APLOUN
    3THES KAI APOTHES;3KATAVASMA;3ENDOFONON;3YFEN KATO;4ANO;3STAVROS;3KLASMA ANO;3DIPLI gu
    3KRATIMA gu;4ALLO;4NEO;3APODERMA NEO;3APLI;3DIPLI;3TRIPLI;3TETRAPLI;3KORONIS
    3LEIMMA ENOS CHRONOU;4DYO CHRONON;4TRION CHRONON;4TESSARON CHRONON;4IMISEOS CHRONOU
    3GORGON NEO ANO;4PARESTIGMENON ARISTERA;5DEXIA;3DIGORGON;4PARESTIGMENON ARISTERA KATO;6ANO
    5DEXIA;3TRIGORGON;3ARGON;3IMIDIARGON;3DIARGON;3AGOGI POLI ARGI;4ARGOTERI;4ARGI;4METRIA;4MESI
    4GORGI;4GORGOTERI;4POLI GORGI;3MARTYRIA PROTOS ICHOS;4ALLI PROTOS ICHOS;4DEYTEROS ICHOS
    4ALLI DEYTEROS ICHOS;4TRITOS ICHOS;4TRIFONIAS;4TETARTOS ICHOS;5LEGETOS ICHOS;4LEGETOS ICHOS
    4PLAGIOS ICHOS;3ISAKIA TELOUS ICHIMATOS;3APOSTROFOI TELOUS ICHIMATOS;3FANEROSIS TETRAFONIAS
    4MONOFONIAS;4DIFONIAS;3MARTYRIA VARYS ICHOS;4PROTOVARYS ICHOS;4PLAGIOS TETARTOS ICHOS
    3GORTHMIKON N APLOUN;5DIPLOUN;3ENARXIS KAI FTHORA VOU;3IMIFONON;3IMIFTHORON
    3FTHORA gu DEYTEROU ICHOU;4DIATONIKI PA;5NANA;4NAOS ICHOS;4DIATONIKI DI;4SKLIRON DIATONON DI
    4DIATONIKI KE;5ZO;5NI KATO;6ANO;4MALAKON CHROMA DIFONIAS;6MONOFONIAS
    3FHTORA SKLIRON CHROMA VASIS;3FTHORA SKLIRON CHROMA SYNAFI;4NENANO;3CHROA ZYGOS;4KLITON;4SPATHI
    3FTHORA I YFESIS TETARTIMORION;4ENARMONIOS ANTIFONIA;3YFESIS TRITIMORION;3DIESIS TRITIMORION
    4TETARTIMORION;4APLI DYO DODEKATA;4MONOGRAMMOS TESSERA DODEKATA;4DIGRAMMOS EX DODEKATA
    4TRIGRAMMOS OKTO DODEKATA;3YFESIS APLI DYO DODEKATA;4MONOGRAMMOS TESSERA DODEKATA
    4DIGRAMMOS EX DODEKATA;4TRIGRAMMOS OKTO DODEKATA;3GENIKI DIESIS;4YFESIS;3DIASTOLI APLI MIKRI
    5MEGALI;4DIPLI;4THESEOS;3SIMANSIS THESEOS;5DISIMOU;5TRISIMOU;5TETRASIMOU;4ARSEOS;5DISIMOU
    5TRISIMOU;5TETRASIMOU;3DIGRAMMA GG;3DIFTOGGOS OU;3STIGMA;3ARKTIKO PA;4VOU;4GA;4DI;4KE;4ZO;4NI
    3KENTIMATA NEO MESO;3KENTIMA NEO MESO;3KENTIMATA NEO KATO;3KENTIMA NEO KATO;3KLASMA KATO
    3GORGON NEO KATO;1D100:0kt w bw BARLINE;2l BARLINE;2n BARLINE;2gx n BARLINE;2DASHED BARLINE
    2es BARLINE;2o REPEAT g;2h REPEAT g;2REPEAT cu;2DAL SEGNO;2DA CAPO;2SEGNO;2CODA
    2REPEATED FIGURE-1>3;2FERMATA;3m;2BREATH ai;2CAESURA;2BRACE;2ae;2ONE-LINE STAFF;2TWO-LINE STAFF
    2THREE-LINE STAFF;2FOUR-LINE STAFF;2FIVE-LINE STAFF;2SIX-LINE STAFF;2SIX-STRING FRETBOARD
    2FOUR-STRING FRETBOARD;2G CLEF;4OTTAVA ALTA;5BASSA;2C CLEF;2F CLEF;4OTTAVA ALTA;5BASSA
    2DRUM CLEF-1;3CLEF-2;1D129:2jm MEASURE REST;2l SHARP;3FLAT;2FLAT UP;3ce;2NATURAL UP;3ce
    2SHARP UP;3ce;2ek ef SHARP;4FLAT;2COMMON TIME;2CUT TIME;2OTTAVA ALTA;3BASSA;2QUINDICESIMA ALTA
    3BASSA;2MULTI REST;2WHOLE REST;2cd REST;2ek REST;2hd REST;2SIXTEENTH REST;2THIRTY-SECOND REST
    2SIXTY-FOURTH REST;2br ab TWENTY-EIGHTH REST;2X jz;2by jz;2ao X jz;2an jz z;4y;2ah jz UP z;5y
    4o z;5y;4h z;5y;4ce z;5y;4UP h z;6y;2MOON jz z;4y;2TRIANGLE-ROUND jz ce z;5y;2be jz;2VOID jz
    2jz y;2NULL jz;2CLUSTER jz z;4y;2ed;2WHOLE NOTE;2cd NOTE;2ek NOTE;2hd NOTE;2SIXTEENTH NOTE
    2THIRTY-SECOND NOTE;2SIXTY-FOURTH NOTE;2br ab TWENTY-EIGHTH NOTE;2ck STEM;3SPRECHGESANG STEM
    3TREMOLO-1>3;2FINGERED TREMOLO-1>3;2ck AUGMENTATION bx;3FLAG-1>5;2BEGIN BEAM;2END BEAM
    2BEGIN TIE;2END TIE;2BEGIN SLUR;2END SLUR;2BEGIN PHRASE;2END PHRASE;2ck ev;3STACCATO;3TENUTO
    3STACCATISSIMO;3MARCATO;3MARCATO-STACCATO;3ACCENT-STACCATO;3LOURE;2ARPEGGIATO UP;3ce;2ck DOIT
    3RIP;3FLIP;3SMEAR;3BEND;3l TONGUE;3dr TONGUE;2RINFORZANDO;2SUBITO;2Z;2PIANO;2MEZZO;2FORTE
    2CRESCENDO;2DECRESCENDO;2GRACE NOTE SLASH;4NO SLASH;2TR;2TURN;2ba TURN;2TURN SLASH;3UP
    2bo STROKE-1>11;2HAUPTSTIMME;2NEBENSTIMME;2END OF STIMME;2DEGREE SLASH;2ck ce BOW;3UP BOW
    3HARMONIC;3SNAP PIZZICATO;2PEDAL ai;3UP ai;2cd PEDAL ai;2GLISSANDO UP;3ce;2b FINGERNAILS;2DAMP
    3ALL;2MAXIMA;2LONGA;2BREVIS;2SEMIBREVIS z;3y;2MINIMA;3y;2SEMIMINIMA z;3y;2FUSA z;3y
    2LONGA PERFECTA REST;3IMPERFECTA REST;2BREVIS REST;2SEMIBREVIS REST;2MINIMA REST
    2SEMIMINIMA REST;2TEMPUS PERFECTUM CUM PROLATIONE PERFECTA;6IMPERFECTA;6PERFECTA DIMINUTION-1
    3IMPERFECTUM CUM PROLATIONE PERFECTA;6IMPERFECTA;7DIMINUTION-1>3;2CROIX;2GREGORIAN C CLEF
    3F CLEF;2an B;2VIRGA;2PODATUS;2CLIVIS;2SCANDICUS;2CLIMACUS;2TORCULUS;2PORRECTUS;3FLEXUS
    2SCANDICUS FLEXUS;2TORCULUS RESUPINUS;2PES SUBPUNCTIS;2KIEVAN C CLEF;3END OF PIECE;3n NOTE
    3RECITATIVE ai;3WHOLE NOTE;3cd NOTE;3ek NOTE STEM ce;6UP;3hd NOTE STEM ce;6UP;3FLAT g;2SORI
    2KORON;1D200:0jg VOCAL NOTATION SYMBOL-1>24;3SYMBOL-50>5;1INSTRUMENTAL NOTATION SYMBOL-1
    3SYMBOL-2;3SYMBOL-4;3SYMBOL-5;3SYMBOL-7;3SYMBOL-8;3SYMBOL-11>4;3SYMBOL-17>3;3SYMBOL-23>5
    3SYMBOL-29;3SYMBOL-30;3SYMBOL-32;3SYMBOL-36>5;3SYMBOL-42;3SYMBOL-43;3SYMBOL-45;3SYMBOL-47>8
    0ck jg kt TRISEME;3TETRASEME;3PENTASEME;0jg kt LEIMMA;1D2E0:0MAYAN NUMERAL dt;2br;2bj;2t;2at
    2ay;2eu;2au;2ar;2cj;2io;2ELEVEN;2TWELVE;2THIRTEEN;2FOURTEEN;2FIFTEEN;2SIXTEEN;2SEVENTEEN
    2EIGHTEEN;2NINETEEN;1D300:0MONOGRAM FOR EARTH;0DIGRAM FOR HEAVENLY EARTH;2HUMAN EARTH
    2EARTHLY HEAVEN;3HUMAN;2EARTH;0TETRAGRAM FOR da;2hf ao;2MIRED;2BARRIER;2KEEPING d;2CONTRARIETY
    2ASCENT;2OPPOSITION;2BRANCHING OUT;2DEFECTIVENESS OR DISTORTION;2DIVERGENCE;2YOUTHFULNESS
    2INCREASE;2PENETRATION;2REACH;2CONTACT;2HOLDING BACK;2WAITING;2FOLLOWING;2ADVANCE;2RELEASE
    2RESISTANCE;2EASE;2JOY;2CONTENTION;2ENDEAVOUR;2DUTIES;2CHANGE;2DECISIVENESS;2BOLD RESOLUTION
    2PACKING;2LEGION;2CLOSENESS;2KINSHIP;2GATHERING;2STRENGTH;2PURITY;2FULLNESS;2RESIDENCE
    2LAW OR MODEL;2RESPONSE;2GOING TO MEET;2ENCOUNTERS;2STOVE;2GREATNESS;2ENLARGEMENT;2PATTERN
    2RITUAL;2FLIGHT;2VASTNESS OR WASTING;2CONSTANCY;2MEASURE;2ETERNITY;2UNITY;2DIMINISHMENT;2fn ld
    2GUARDEDNESS;2GATHERING IN;2MASSING;2ACCUMULATION;2EMBELLISHMENT;2DOUBT;2WATCH;2SINKING;2INNER
    2DEPARTURE;2DARKENING;2DIMMING;2EXHAUSTION;2SEVERANCE;2STOPPAGE;2HARDNESS;2COMPLETION;2CLOSURE
    2FAILURE;2AGGRAVATION;2COMPLIANCE;2ON THE VERGE;2DIFFICULTIES;2LABOURING;2FOSTERING
    1D360:0COUNTING ROD UNIT bs br;4bj;4t;4at;4ay;4eu;4au;4ar;4cj;2TENS bs br;4bj;4t;4at;4ay;4eu
    4au;4ar;4cj;0fv TALLY ai br;3bj;3t;3at;3ay;0TALLY ai br;2ay;1D400:0MATHEMATICAL BOLD c A;3B;3C
    3D;3E;3F;3G;3H;3I;3J;3K;3L;3M;3N;3O;3P;3Q;3R;3S;3T;3U;3V;3W;3X;3Y;3Z;2d A;3B;3C;3D;3E;3F;3G;3H
    3I;3J;3K;3L;3M;3N;3O;3P;3Q;3R;3S;3T;3U;3V;3W;3X;3Y;3Z;1ITALIC c A;3B;3C;3D;3E;3F;3G;3H;3I;3J;3K
    3L;3M;3N;3O;3P;3Q;3R;3S;3T;3U;3V;3W;3X;3Y;3Z;2d A;3B;3C;3D;3E;3F;3G;1D456:3I;3J;3K;3L;3M;3N;3O
    3P;3Q;3R;3S;3T;3U;3V;3W;3X;3Y;3Z;1BOLD ITALIC c A;4B;4C;4D;4E;4F;4G;4H;4I;4J;4K;4L;4M;4N;4O;4P
    4Q;4R;4S;4T;4U;4V;4W;4X;4Y;4Z;3d A;4B;4C;4D;4E;4F;4G;4H;4I;4J;4K;4L;4M;4N;4O;4P;4Q;4R;4S;4T;4U
    4V;4W;4X;4Y;4Z;1hk c A;1D49E:3C;3D;1D4A2:3G;1D4A5:3J;3K;1D4A9:3N;3O;3P;3Q;1D4AE:3S;3T;3U;3V;3W
    3X;3Y;3Z;2d A;3B;3C;3D;1D4BB:3F;1D4BD:3H;3I;3J;3K;3L;3M;3N;1D4C5:3P;3Q;3R;3S;3T;3U;3V;3W;3X;3Y
    3Z;1BOLD hk c A;4B;4C;4D;4E;4F;4G;4H;4I;4J;4K;4L;4M;4N;4O;4P;4Q;4R;4S;4T;4U;4V;4W;4X;4Y;4Z;3d A
    4B;4C;4D;4E;4F;4G;4H;4I;4J;4K;4L;4M;4N;4O;4P;4Q;4R;4S;4T;4U;4V;4W;4X;4Y;4Z;1FRAKTUR c A;3B
    1D507:3D;3E;3F;3G;1D50D:3J;3K;3L;3M;3N;3O;3P;3Q;1D516:3S;3T;3U;3V;3W;3X;3Y;1D51E:2d A;3B;3C;3D
    3E;3F;3G;3H;3I;3J;3K;3L;3M;3N;3O;3P;3Q;3R;3S;3T;3U;3V;3W;3X;3Y;3Z;1go c A;3B;1D53B:3D;3E;3F;3G
    1D540:3I;3J;3K;3L;3M;1D546:3O;1D54A:3S;3T;3U;3V;3W;3X;3Y;1D552:2d A;3B;3C;3D;3E;3F;3G;3H;3I;3J
    3K;3L;3M;3N;3O;3P;3Q;3R;3S;3T;3U;3V;3W;3X;3Y;3Z;1BOLD FRAKTUR c A;4B;4C;4D;4E;4F;4G;4H;4I;4J;4K
    4L;4M;4N;4O;4P;4Q;4R;4S;4T;4U;4V;4W;4X;4Y;4Z;3d A;4B;4C;4D;4E;4F;4G;4H;4I;4J;4K;4L;4M;4N;4O;4P
    4Q;4R;4S;4T;4U;4V;4W;4X;4Y;4Z;1dv c A;3B;3C;3D;3E;3F;3G;3H;3I;3J;3K;3L;3M;3N;3O;3P;3Q;3R;3S;3T
    3U;3V;3W;3X;3Y;3Z;2d A;3B;3C;3D;3E;3F;3G;3H;3I;3J;3K;3L;3M;3N;3O;3P;3Q;3R;3S;3T;3U;3V;3W;3X;3Y
    3Z;2BOLD c A;4B;4C;4D;4E;4F;4G;4H;4I;4J;4K;4L;4M;4N;4O;4P;4Q;4R;4S;4T;4U;4V;4W;4X;4Y;4Z;3d A;4B
    4C;4D;4E;4F;4G;4H;4I;4J;4K;4L;4M;4N;4O;4P;4Q;4R;4S;4T;4U;4V;4W;4X;4Y;4Z;2ITALIC c A;4B;4C;4D;4E
    4F;4G;4H;4I;4J;4K;4L;4M;4N;4O;4P;4Q;4R;4S;4T;4U;4V;4W;4X;4Y;4Z;3d A;4B;4C;4D;4E;4F;4G;4H;4I;4J
    4K;4L;4M;4N;4O;4P;4Q;4R;4S;4T;4U;4V;4W;4X;4Y;4Z;2BOLD ITALIC c A;5B;5C;5D;5E;5F;5G;5H;5I;5J;5K
    5L;5M;5N;5O;5P;5Q;5R;5S;5T;5U;5V;5W;5X;5Y;5Z;4d A;5B;5C;5D;5E;5F;5G;5H;5I;5J;5K;5L;5M;5N;5O;5P
    5Q;5R;5S;5T;5U;5V;5W;5X;5Y;5Z;1MONOSPACE c A;3B;3C;3D;3E;3F;3G;3H;3I;3J;3K;3L;3M;3N;3O;3P;3Q;3R
    3S;3T;3U;3V;3W;3X;3Y;3Z;2d A;3B;3C;3D;3E;3F;3G;3H;3I;3J;3K;3L;3M;3N;3O;3P;3Q;3R;3S;3T;3U;3V;3W
    3X;3Y;3Z;1ITALIC d ka I;4J;1D6A8:1BOLD c hj;3BETA;3kk;3ll;3fx;3ZETA;3ETA;3jh;3kp;3KAPPA;3LAMDA
    3MU;3NU;3XI;3id;3PI;3RHO;3jh w;3jd;3TAU;3fo;3PHI;3CHI;3PSI;3gm;2NABLA;2d hj;3BETA;3kk;3ll;3fx
    3ZETA;3ETA;3jh;3kp;3KAPPA;3LAMDA;3MU;3NU;3XI;3id;3PI;3RHO;3n jd;3jd;3TAU;3fo;3PHI;3CHI;3PSI;3gm
    2PARTIAL DIFFERENTIAL;2fx w;2jh w;2KAPPA w;2PHI w;2RHO w;2PI w;1ITALIC c hj;3BETA;3kk;3ll;3fx
    3ZETA;3ETA;3jh;3kp;3KAPPA;3LAMDA;3MU;3NU;3XI;3id;3PI;3RHO;3jh w;3jd;3TAU;3fo;3PHI;3CHI;3PSI;3gm
    2NABLA;2d hj;3BETA;3kk;3ll;3fx;3ZETA;3ETA;3jh;3kp;3KAPPA;3LAMDA;3MU;3NU;3XI;3id;3PI;3RHO;3n jd
    3jd;3TAU;3fo;3PHI;3CHI;3PSI;3gm;2PARTIAL DIFFERENTIAL;2fx w;2jh w;2KAPPA w;2PHI w;2RHO w;2PI w
    1BOLD ITALIC c hj;4BETA;4kk;4ll;4fx;4ZETA;4ETA;4jh;4kp;4KAPPA;4LAMDA;4MU;4NU;4XI;4id;4PI;4RHO
    4jh w;4jd;4TAU;4fo;4PHI;4CHI;4PSI;4gm;3NABLA;3d hj;4BETA;4kk;4ll;4fx;4ZETA;4ETA;4jh;4kp;4KAPPA
    4LAMDA;4MU;4NU;4XI;4id;4PI;4RHO;4n jd;4jd;4TAU;4fo;4PHI;4CHI;4PSI;4gm;3PARTIAL DIFFERENTIAL
    3fx w;3jh w;3KAPPA w;3PHI w;3RHO w;3PI w;1dv BOLD c hj;4BETA;4kk;4ll;4fx;4ZETA;4ETA;4jh;4kp
    4KAPPA;4LAMDA;4MU;4NU;4XI;4id;4PI;4RHO;4jh w;4jd;4TAU;4fo;4PHI;4CHI;4PSI;4gm;3NABLA;3d hj;4BETA
    4kk;4ll;4fx;4ZETA;4ETA;4jh;4kp;4KAPPA;4LAMDA;4MU;4NU;4XI;4id;4PI;4RHO;4n jd;4jd;4TAU;4fo;4PHI
    4CHI;4PSI;4gm;3PARTIAL DIFFERENTIAL;3fx w;3jh w;3KAPPA w;3PHI w;3RHO w;3PI w;3ITALIC c hj;5BETA
    5kk;5ll;5fx;5ZETA;5ETA;5jh;5kp;5KAPPA;5LAMDA;5MU;5NU;5XI;5id;5PI;5RHO;5jh w;5jd;5TAU;5fo;5PHI
    5CHI;5PSI;5gm;4NABLA;4d hj;5BETA;5kk;5ll;5fx;5ZETA;5ETA;5jh;5kp;5KAPPA;5LAMDA;5MU;5NU;5XI;5id
    5PI;5RHO;5n jd;5jd;5TAU;5fo;5PHI;5CHI;5PSI;5gm;4PARTIAL DIFFERENTIAL;4fx w;4jh w;4KAPPA w
    4PHI w;4RHO w;4PI w;1BOLD c DIGAMMA;2d DIGAMMA;1D7CE:2bs dt;3br;3bj;3t;3at;3ay;3eu;3au;3ar;3cj
    1go bs dt;3br;3bj;3t;3at;3ay;3eu;3au;3ar;3cj;1dv bs dt;3br;3bj;3t;3at;3ay;3eu;3au;3ar;3cj
    2BOLD bs dt;4br;4bj;4t;4at;4ay;4eu;4au;4ar;4cj;1MONOSPACE bs dt;3br;3bj;3t;3at;3ay;3eu;3au;3ar
    3cj;0SIGNWRITING dj bi;1fe bi;1HAND-CUP bi;1HAND-OVAL bi;1ff bi;1ib bi;1dj bi lk;1fe bi lk
    1dj ct UNDER bi lk;2bi hh KNUCKLE;3CUPPED;3lh;4ho;1fe bi HINGE;1dj bi ad;1fe bi ad;1dj bi ad lk
    4hh KNUCKLES;4lh;3UP ad lh;3lh ad UP;3ad fw;5bi lk;5ad lk;5CUPPED;5lh;4la;1fe bi ad la
    1dj ad lk cv bi;2bi lk cv ad;3ad ct;1fe bi ad ct;1dj bi ad fk ct lk;4lk ct fk;4ct lk
    4lh SPREAD ct SIDE;3UP ad lh ct SIDE;7fw;3lh ad UP ct SIDE;3ad UP SPREAD ct if;4ct CUPPED;5cl
    5HOOKED;5lh;2ct is bi ad fk;2bi ad fw ct SIDE;7fw;7lk;2ad ct HOOKED bi UP;2bi ct HOOKED ad UP
    3ad fw lh ct SIDE;4la ct SIDE;4fw ct if;5CUPPED ct if;2ad ct CUPPED bi UP;2bi ct CUPPED ad UP
    2ad ct cl bi UP;6lh;2bi ct ANGLED OUT ad UP;5IN ad UP;4cl ad UP;3ad ct fw lh;5ANGLED OUT
    5ANGLED;2ad ct ANGLED OUT bi UP;7la;5bi UP;2bi ct HOOKED ad lh;1HAND-FLAT at gj;4lk;4lh;4fw
    5SPLIT;1HAND-CLAW at gj fw;1dj at gj fw lk;1ff at gj fw;1HAND-FLAT ay gj SPREAD
    2HEEL ay gj SPREAD;2ay gj SPREAD at lk;2HEEL ay gj SPREAD at lk;2ay gj SPREAD lk
    2HEEL ay gj SPREAD lk;2ay gj SPREAD ct if;1HAND-CUP ay gj SPREAD;5eg;1ff ay gj SPREAD eg
    1HAND-OVAL ay gj SPREAD;1HAND-FLAT ay gj SPREAD lh;6ct SIDE;6NO ct;1HAND-FLAT;2is PALM FACINGS
    2HEEL;2ct SIDE;2HEEL ct SIDE;2ct lk;3if;2SPLIT bi ct SIDE;3da;4ct SIDE;6lk;3cz;1HAND-CLAW
    2ct SIDE;2NO ct;2ct if;1HAND-HOOK CURLICUE;1HAND-HOOK;1HAND-CUP eg;1HAND-CUP;2eg ct SIDE
    2ct SIDE;2eg NO ct;2NO ct;2eg ct if;2ct if;1HAND-CURLICUE eg;1HAND-CURLICUE;1fe;1HAND-OVAL
    2ct SIDE;2NO ct;2ct if;1ff eg;3ct if;1ff;2d;2eg ct SIDE;2ct SIDE;2eg NO ct;2NO ct
    2ct SIDE TOUCHING bi;3is ad di;1ib;1dj bi ad di;1fe bi ad di;1ff bi ad di;1ib bi ad di;1ff cz
    1dj bi ad di lk;5fw;1ff bi ad di fw;1dj cz ce;4RIPPLE fk;5CURVED;4OTHERS cl;3UP;2ct UNDER cz UP
    1fe cz UP;1HAND-OVAL cz UP;1ib cz UP;1dj cz hh KNUCKLE;3lk;3TOUCHES ct;3ct;1ff cz ct
    1dj cz bi ct;1ff cz bi ct;1ib cz bi ct bi ct OUT;6ct;1dj cz bi;1fe cz bi;1ff cz bi;1ib cz bi
    1dj bi ad cz;1fe bi ad cz;1ff bi ad cz;2di;1ib bi ad cz;1dj bi ad fr cz;1fe bi ad fr cz
    1dj di ce;1ff di ce bi ct av ad;1ib di ce ad ct bi fr;1dj di UP;3hh KNUCKLE;3cz;1fe di cz
    1HAND-OVAL di cz;1ib di cz;1dj di ad;4fw;4hh KNUCKLES;3bi;3ct;1HAND-HOOK di ct;1dj bi di cz
    1fe bi di cz;1HAND-CURLICUE bi di cz ON;1HAND-HOOK bi di cz OUT;5IN;5UNDER;1HAND-CUP bi di cz
    1ff bi di cz;1ib bi di cz OUT;4cz;1dj ad ce;1ff ad;1dj ad UP;1fe ad UP;1dj ad hh KNUCKLE
    3UP ct SIDE;1HAND-HOOK ad ct;1dj ad ct cz;3cz;3di cz;1fe ad di cz;1HAND-CURLICUE ad di cz ON
    1HAND-CUP ad di cz;1ff ad di cz;1ib ad di cz OUT;5IN;4cz;1fe ad di cz lk;1HAND-CLAW ad di cz fw
    6SIDE;1HAND-HOOK ad di cz fw OUT;6IN;5fw;1ff bi lh;1dj bi ct SIDE;1ff bi ct SIDE
    1dj bi ct SIDE ct cm;6fw;6lk;5bi lk;5BOTH lk;5bi HINGE;4if bi fk;6lk;4av;4CURLICUE;4CURVE ct jj
    1HAND-CLAW bi ct CURVE ct jj;1dj bi ct CURVE ct UNDER;4ao;1HAND-CUP bi ct;4eg;1ff bi ct eg;4dd
    3ct;4d;1ib bi ct OUT;4IN;3ct;1dj ct;3HEEL;3SIDE cm;4fw;4lk;3if;3is bi ad;4ad di;4di cz
    3UNDER bj gj;3cv bj gj;3UNDER t gj;4at gj;3cv at hh KNUCKLES;1dj;2HEEL;1TOUCH bw;2jm;2is
    1GRASP bw;2jm;2is;1STRIKE bw;2jm;2is;1BRUSH bw;2jm;2is;1RUB bw;2jm;2is;1SURFACE SYMBOLS;2is
    1SQUEEZE dd bw;2d bw;2dd jm;2d jm;2SEQUENTIAL;1FLICK dd bw;2d bw;2dd jm;2d jm;2SEQUENTIAL
    1SQUEEZE FLICK et;1MOVEMENT-HINGE UP ce dd;4d;3SEQUENTIAL;2ce SEQUENTIAL;2UP ce et dd;5d
    2SIDE TO SIDE SCISSORS;1dw FINGER CONTACT;1do FINGER CONTACT;1dw bw fk d;4bd;4dd;4LARGEST
    3WRIST FLEX;2l fk;3WRIST FLEX;3et;4WRIST FLEX;2fr;2dr fk MOVEMENT;3WRIST FLEX;3et;4WRIST FLEX
    2BEND d;3bd;3dd;2ga d;3bd;3dd;3ROTATION;2CHECK d;3bd;3dd;2BOX d;3bd;3dd;2ZIGZAG d;3bd;3dd
    2PEAKS d;3bd;3dd;1TRAVEL-WALLPLANE kg bw;3l;3et;2jv bw;3l;3et;2SHAKING;2ARM SPIRAL bw;4l;4dr
    1MOVEMENT-DIAGONAL AWAY d;3bd;3dd;3LARGEST;2TOWARDS d;3bd;3dd;3LARGEST;2is AWAY d;4bd;4dd
    4LARGEST;3TOWARDS d;4bd;4dd;4LARGEST;1do bw fk d;4bd;4dd;4LARGEST;3WRIST FLEX;2l fk;3WRIST FLEX
    3et;4WRIST FLEX;2fr;2dr fk MOVEMENT;3WRIST FLEX;3et MOVEMENT;4WRIST FLEX;2BEND;2ga d;3bd;3dd
    2CHECK;2BOX d;3bd;3dd;2ZIGZAG d;3bd;3dd;2PEAKS d;3bd;3dd;1TRAVEL-FLOORPLANE jv bw;3l;3et;2kg bw
    3l;3et;2SHAKING;1dw CURVE ek d;4bd;4dd;4LARGEST;3HALF-CIRCLE d;4bd;4dd;4LARGEST
    3THREE-QUARTER ao d;5bd;2HUMP d;3bd;3dd;2LOOP d;3bd;3dd;3d l;2WAVE CURVE l d;5bd;5dd;4dr d;5bd
    5dd;2CURVE THEN fk;2CURVED fr d;4bd;1kg bw;2l;2er;1dw SHAKING;2CURVE ex FRONT WALL
    2HUMP ex FRONT WALL;2LOOP ex FRONT WALL;2WAVE ex FRONT WALL;1kg bw ex FRONT WALL
    2l ex FRONT WALL;2et ex FRONT WALL;1dw CURVE ex CHEST;2HUMP ex CHEST;2LOOP ex CHEST
    2WAVE ex CHEST;1kg bw ex CHEST;2l ex CHEST;2et ex CHEST;1dw WAVE cm PATH d;5bd;5dd
    1do CURVE ex CEILING d;5dd;2HUMP ex CEILING d l;5dd l;5d dr;5dd dr;2LOOP ex CEILING d bw;5dd bw
    5d l;5dd l;2WAVE ex CEILING d;5dd;1jv bw ex CEILING;2l ex CEILING;2et ex CEILING
    1do CURVE ex FLOOR d;5dd;2HUMP ex FLOOR d l;5dd l;5dr d dr;6dd dr;2LOOP ex FLOOR d bw;5dd bw
    5d l;5dd l;2WAVE ex FLOOR d;5dd;1jv bw ex FLOOR;2l ex FLOOR;2et ex FLOOR;1do CURVE d;3bd;3dd
    3LARGEST;3COMBINED;2HUMP d;2LOOP d;2WAVE SNAKE;3d;3dd;1jv bw;2l;2et;1do SHAKING PARALLEL
    1dw ARM ao d bw;4bd bw;4d l;4bd l;1do ARM ao ex WALL d bw;6bd bw;6dd bw;6d l;6bd l;6dd l
    1dw WRIST ao FRONT bw;5l;1do WRIST ao ex WALL bw;6l;1dw FINGER lg bw;4l
    1do FINGER lg ex WALL bw;6l;1DYNAMIC am d;3dd;2FAST;2SLOW;2TENSE;2RELAXED;2SIMULTANEOUS;3et
    2EVERY OTHER TIME;2GRADUAL;1HEAD;2RIM;2dw fk;3TILT;2do fk;2dw CURVE;2do CURVE;2MOVEMENT ao
    1cs DIRECTION POSITION NOSE if TILTING;5UP OR ce;8TILTING;1EYEBROWS fk UP;3hc;3ce
    1DREAMY EYEBROWS hc ce;3ce hc;3UP hc;3hc UP;1FOREHEAD hc;2CONTACT;2WRINKLED;1EYES eg;2SQUEEZED
    2fn;1EYE BLINK bw;3jm;1EYES cd eg;2WIDE eg;2cd fn;2WIDENING MOVEMENT;1EYE WINK;1EYELASHES UP
    2ce;2FLUTTERING;1EYEGAZE-WALLPLANE fk;3l;3et;1EYEGAZE-FLOORPLANE fk;3l;3et
    1EYEGAZE-WALLPLANE CURVED;1EYEGAZE-FLOORPLANE CURVED;1EYEGAZE-WALLPLANE CIRCLING;1CHEEKS PUFFED
    2hc;2SUCKED;1TENSE CHEEKS ew;3ad;3ho;1EARS;1NOSE hc;2CONTACT;2WRINKLES;2WIGGLES
    1AIR BLOWING OUT;2SUCKING IN;2BLOW d ROTATIONS;2SUCK d ROTATIONS;1BREATH INHALE;2EXHALE
    1ld fn hc;3if;3CONTACT;2SMILE;3WRINKLED;3eg;2FROWN;3WRINKLED;3eg;2eg ao;3if;3WRINKLED;3OVAL
    4WRINKLED;4YAWN;3RECTANGLE;4WRINKLED;4YAWN;2KISS;3if;3WRINKLED;2TENSE;3if;3SUCKED
    1LIPS PRESSED TOGETHER;1LIP bt cv cr;2cr cv bt;1ld CORNERS;2WRINKLES bw;3l
    1TONGUE STICKING OUT FAR;2LICKING LIPS;2TIP is LIPS;3TOUCHING jj ld;2jj ld RELAXED
    2MOVES AGAINST CHEEK;2da STICKING OUT;3jj ld;1TEETH;2MOVEMENT;2ON TONGUE;4MOVEMENT;3LIPS
    4MOVEMENT;2BITE LIPS;1dw JAW;1do JAW;1NECK;1HAIR;1EXCITEMENT;1SHOULDER HIP SPINE;3POSITIONS
    1WALLPLANE SHOULDER HIP MOVE;1FLOORPLANE SHOULDER HIP MOVE;1SHOULDER TILTING ku WAIST
    1TORSO-WALLPLANE fk STRETCH;2CURVED BEND;1TORSO-FLOORPLANE TWISTING
    1cr BODY TILTING ku HIP JOINTS;1LIMB COMBINATION;2LENGTH-1>7;1FINGER;1LOCATION-WALLPLANE kj
    1LOCATION-FLOORPLANE kj;1LOCATION HEIGHT;2WIDTH;2DEPTH;2HEAD NECK;2TORSO;2LIMBS DIGITS;1dq
    1hf fb;1iz;1hp;1be;1DA9B:1FILL MODIFIER-2>5;1DAA1:1ROTATION MODIFIER-2>15
    1DF00:0eo d a FENG fq b TRILL;3aq hk G;1a d c bg G;1d a aq K;1a d c L b BELT;1d a LEZH b ca av
    3bg Y b BELT;3aq ENG;3bg R b ej LEG p ca av;3T b av p ca av;1a ca CLICK b ca av;1d a ESH b l fc
    7p CURL;3bg T b CURL;1a ba fp fb b CURL;2STRETCHED C b CURL;2d c bg K;1d a L b FISHHOOK
    3DEZH fq b fi av;3L b BELT p fi av;3ENG b fi av;3bg R b fi av;3R b FISHHOOK p fi av
    3TESH fq b fi av;3EZH b fi av;3DEZH fq b ca av;3I b v p ca av;3O b ca av;3TESH fq b ca av
    3C b ca av;3S b CURL;1E000:0ck GLAGOLITIC a AZU;3BUKY;3VEDE;3GLAGOLI;3DOBRO;3YESTU;3ZHIVETE
    1E008:3ZEMLJA;3IZHE;3s IZHE;3I;3DJERVI;3KAKO;3LJUDIJE;3MYSLITE;3NASHI;3ONU;3POKOJI;3RITSI
    3SLOVO;3TVRIDO;3UKU;3FRITU;3HERU;1E01B:3SHTA;3TSI;3CHRIVI;3jf;3YERU;3YERI;3YATI;1E023:3YU
    3d YUS;1E026:3YO;3IOTATED d YUS;3BIG YUS;3IOTATED BIG YUS;3FITA
    1E100:0NYIAKENG PUACHUE HMONG a MA;4TSA;4NTA;4TA;4HA;4NA;4XA;4NKA;4CA;4LA;4SA;4ZA;4NCA;4NTSA
    4KA;4DA;4kb;4NRA;4VA;4NTXA;4TXA;4FA;4RA;4QA;4YA;4NQA;4PA;4XYA;4NPA;4DLA;4NPLA;4hv;4MLA;4PLA;4GA
    4RRA;4A;4AA;4I;4U;4O;4OO;4E;4EE;4W;1E130:3TONE-B;3TONE-M;3TONE-J;3TONE-V;3TONE-S;3TONE-G
    3TONE-D;3g FOR lb;5THING;5LOCATION;5ANIMAL;5INVERTEBRATE;4XW XW;3hm LENGTHENER;1E140:3bs dt;4br
    4bj;4t;4at;4ay;4eu;4au;4ar;4cj;1E14E:3LOGOGRAM NYAJ;3cl CA;1E290:0TOTO a PA;2BA;2TA;2DA;2KA;2GA
    2MA;2NA;2je;2SA;2jy;2YA;2WA;2JA;2HA;2RA;2LA;2I;2BREATHY I;2IU;2BREATHY IU;2U;2E;2BREATHY E;2EO
    2BREATHY EO;2O;2AE;2BREATHY AE;2A;1g RISING ef;1E2C0:0WANCHO a AA;2A;2BA;2CA;2DA;2GA;2YA;2PHA
    2LA;2NA;2PA;2TA;2ks;2FA;2SA;2jf;2JA;2ZA;2WA;2VA;2KA;2O;2AU;2RA;2MA;2ke;2HA;2E;2I;2je;2U;2LLHA
    2TSA;2TRA;2ONG;2AANG;2ANG;2ING;2ON;2EN;2AAN;2kb;2UEN;2YIH;1ef TUP;2TUPNI;2KOI;2KOINI;1bs dt;2br
    2bj;2t;2at;2ay;2eu;2au;2ar;2cj;1E2FF:1NGUN g;1E7E0:0ETHIOPIC hm HHYA;2HHYU;2HHYI;2HHYAA;2HHYEE
    2HHYE;2HHYO;1E7E8:2GURAGE HHWA;2HHWI;2HHWEE;2HHWE;1E7ED:2GURAGE MWI;3MWEE;1E7F0:3QWI;3QWEE;3QWE
    3BWI;3BWEE;3KWI;3KWEE;3KWE;3GWI;3GWEE;3GWE;3FWI;3FWEE;3PWI;3PWEE
    1E800:0MENDE KIKAKUI hm M001 KI;3M002 KA;3M003 KU;3M065 KEE;3M095 KE;3M076 KOO;3M048 KO
    3M179 KUA;3M004 WI;3M005 WA;3M006 WU;3M126 WEE;3M118 WE;3M114 WOO;3M045 WO;3M194 WUI;3M143 WEI
    3M061 WVI;3M049 WVA;3M139 WVE;3M007 MIN;3M008 MAN;3M009 MUN;3M059 MEN;3M094 MON;3M154 MUAN
    3M189 MUEN;3M010 BI;3M011 BA;3M012 BU;3M150 BEE;3M097 BE;3M103 BOO;3M138 BO;3M013 I;3M014 A
    3M015 U;3M163 EE;3M100 E;3M165 OO;3M147 O;3M137 EI;3M131 IN;3M135 IN;3M195 AN;3M178 EN;3M019 SI
    3M020 SA;3M021 SU;3M162 SEE;3M116 SE;3M136 SOO;3M079 SO;3M196 SIA;3M025 LI;3M026 LA;3M027 LU
    3M084 LEE;3M073 LE;3M054 LOO;3M153 LO;3M110 ej LE;3M016 DI;3M017 DA;3M018 DU;3M089 DEE
    3M180 DOO;3M181 DO;3M022 TI;3M023 TA;3M024 TU;3M091 TEE;3M055 TE;3M104 TOO;3M069 TO;3M028 JI
    3M029 JA;3M030 JU;3M157 JEE;3M113 JE;3M160 JOO;3M063 JO;3M175 ej JO;3M031 YI;3M032 YA;3M033 YU
    3M109 YEE;3M080 YE;3M141 YOO;3M121 YO;3M034 FI;3M035 FA;3M036 FU;3M078 FEE;3M075 FE;3M133 FOO
    3M088 FO;3M197 FUA;3M101 FAN;3M037 NIN;3M038 NAN;3M039 NUN;3M117 NEN;3M169 NON;3M176 HI
    3M041 HA;3M186 HU;3M040 HEE;3M096 HE;3M042 HOO;3M140 HO;3M083 HEEI;3M128 HOOU;3M053 HIN
    3M130 HAN;3M087 HUN;3M052 HEN;3M193 HON;3M046 HUAN;3M090 NGGI;3M043 NGGA;3M082 NGGU;3M115 NGGEE
    3M146 NGGE;3M156 NGGOO;3M120 NGGO;3M159 NGGAA;3M127 NGGUA;3M086 ej NGGE;3M106 ej NGGOO
    3M183 ej NGGO;3M155 GI;3M111 GA;3M168 GU;3M190 GEE;3M166 GUEI;3M167 GUAN;3M184 NGEN;3M057 NGON
    3M177 NGUAN;3M068 PI;3M099 PA;3M050 PU;3M081 PEE;3M051 PE;3M102 POO;3M066 PO;3M145 MBI
    3M062 MBA;3M122 MBU;3M047 MBEE;3M188 MBEE;3M072 MBE;3M172 MBOO;3M174 MBO;3M187 MBUU
    3M161 ej MBE;3M105 ej MBOO;3M142 ej MBO;3M132 KPI;3M092 KPA;3M074 KPU;3M044 KPEE;3M108 KPE
    3M112 KPOO;3M158 KPO;3M124 GBI;3M056 GBA;3M148 GBU;3M093 GBEE;3M107 GBE;3M071 GBOO;3M070 GBO
    3M171 RA;3M123 NDI;3M129 NDA;3M125 NDU;3M191 NDEE;3M119 NDE;3M067 NDOO;3M064 NDO;3M152 NJA
    3M192 NJU;3M149 NJEE;3M134 NJOO;3M182 VI;3M185 VA;3M151 VU;3M173 VEE;3M085 VE;3M144 VOO
    3M077 VO;3M164 NYIN;3M058 NYAN;3M170 NYUN;3M098 NYEN;3M060 NYON;1E8C7:2bs br;3bj;3t;3at;3ay;3eu
    3au;3ar;3cj;2ck cq TEENS;4TENS;4HUNDREDS;4THOUSANDS;4io THOUSANDS;4ab THOUSANDS;4MILLIONS
    1E900:0ADLAM c a ALIF;3DAALI;3LAAM;3MIIM;3BA;3SINNYIIYHE;3PE;3BHE;3RA;3E;3FA;3I;3O;3DHA;3YHE
    3WAW;3NUN;3KAF;3YA;3U;3JIIM;3CHI;3HA;3QAAF;3GA;3kb;3TU;3NHA;3VA;3ke;3GBE;3ZAL;3KPO;3jf
    1d a ALIF;3DAALI;3LAAM;3MIIM;3BA;3SINNYIIYHE;3PE;3BHE;3RA;3E;3FA;3I;3O;3DHA;3YHE;3WAW;3NUN;3KAF
    3YA;3U;3JIIM;3CHI;3HA;3QAAF;3GA;3kb;3TU;3NHA;3VA;3ke;3GBE;3ZAL;3KPO;3jf;1ALIF LENGTHENER
    1bm LENGTHENER;1GEMINATION ai;1gy;1eq dy;1GEMINATE eq dy;1jk;1NASALIZATION ai;1E950:1bs dt;2br
    2bj;2t;2at;2ay;2eu;2au;2ar;2cj;1E95E:1s cy ai;2ec ai;1EC71:0INDIC SIYAQ cq br;3bj;3t;3at;3ay
    3eu;3au;3ar;3cj;3io;3em;3ih;3FORTY;3hn;3SIXTY;3eh;3EIGHTY;3fa;3br ab;3bj ab;3t ab;3at ab;3ay ab
    3eu ab;3au ab;3ar ab;3cj ab;3br ac;3bj ac;3t ac;3at ac;3ay ac;3eu ac;3au ac;3ar ac;3cj ac
    3io ac;3em ac;3ih ac;3FORTY ac;3hn ac;3SIXTY ac;3eh ac;3EIGHTY ac;3fa ac;3LAKH;3LAKHAN;2LAKH ai
    2cq KAROR;3KARORAN;3PREFIXED br;4bj;4t;4at;4ay;4eu;4au;4ar;4cj;2PLACEHOLDER;2gq br ek;4cd;3t ig
    2RUPEE ai;2cq er br;4bj;4io ac;2er LAKH ai;1ED01:0OTTOMAN SIYAQ cq br;3bj;3t;3at;3ay;3eu;3au
    3ar;3cj;3io;3em;3ih;3FORTY;3hn;3SIXTY;3eh;3EIGHTY;3fa;3br ab;3bj ab;3t ab;3at ab;3ay ab;3eu ab
    3au ab;3ar ab;3cj ab;3br ac;3bj ac;3t ac;3at ac;3ay ac;3eu ac;3au ac;3ar ac;3cj ac;3io ac
    3em ac;3ih ac;3FORTY ac;3hn ac;3SIXTY ac;3eh ac;3EIGHTY ac;3fa ac;2MARRATAN;2er cq bj;4t;4at
    4ay;4eu;4au;4ar;4cj;4io;4at ab;4eu ab;4bj ac;4io ac;2gq br cd;4SIXTH;1EE00:0ji MATHEMATICAL db
    2BEH;2ei;2DAL;1EE05:2WAW;2ZAIN;2hv;2TAH;2ge;2KAF;2LAM;2bu;2jb;2SEEN;2AIN;2FEH;2SAD;2QAF;2REH
    2SHEEN;2TEH;2THEH;2gv;2THAL;2DAD;2ZAH;2GHAIN;2ka BEH;3jb;3FEH;3QAF;1EE21:2s BEH;3ei;1EE24:3HEH
    1EE27:3hv;1EE29:3ge;3KAF;3LAM;3bu;3jb;3SEEN;3AIN;3FEH;3SAD;3QAF;1EE34:3SHEEN;3TEH;3THEH;3gv
    1EE39:3DAD;1EE3B:3GHAIN;1EE42:2TAILED ei;1EE47:3hv;1EE49:3ge;1EE4B:3LAM;1EE4D:3jb;3SEEN;3AIN
    1EE51:3SAD;3QAF;1EE54:3SHEEN;1EE57:3gv;1EE59:3DAD;1EE5B:3GHAIN;1EE5D:3ka jb;1EE5F:4QAF
    1EE61:2STRETCHED BEH;3ei;1EE64:3HEH;1EE67:3hv;3TAH;3ge;3KAF;1EE6C:3bu;3jb;3SEEN;3AIN;3FEH;3SAD
    3QAF;1EE74:3SHEEN;3TEH;3THEH;3gv;1EE79:3DAD;3ZAH;3GHAIN;3ka BEH;1EE7E:4FEH;1EE80:2LOOPED db
    3BEH;3ei;3DAL;3HEH;3WAW;3ZAIN;3hv;3TAH;3ge;1EE8B:3LAM;3bu;3jb;3SEEN;3AIN;3FEH;3SAD;3QAF;3REH
    3SHEEN;3TEH;3THEH;3gv;3THAL;3DAD;3ZAH;3GHAIN;1EEA1:2go BEH;3ei;3DAL;1EEA5:3WAW;3ZAIN;3hv;3TAH
    3ge;1EEAB:3LAM;3bu;3jb;3SEEN;3AIN;3FEH;3SAD;3QAF;3REH;3SHEEN;3TEH;3THEH;3gv;3THAL;3DAD;3ZAH
    3GHAIN;1EEF0:2co bu b hv b TATWEEL;3hv b DAL;1F000:0MAHJONG TILE fz WIND;2fu WIND;2gw WIND
    2fg WIND;2RED DRAGON;2GREEN DRAGON;2z DRAGON;2br OF kh;2bj OF kh;2t OF kh;2at OF kh;2ay OF kh
    2eu OF kh;2au OF kh;2ar OF kh;2cj OF kh;2br OF BAMBOOS;2bj OF BAMBOOS;2t OF BAMBOOS
    2at OF BAMBOOS;2ay OF BAMBOOS;2eu OF BAMBOOS;2au OF BAMBOOS;2ar OF BAMBOOS;2cj OF BAMBOOS
    2br OF lg;2bj OF lg;2t OF lg;2at OF lg;2ay OF lg;2eu OF lg;2au OF lg;2ar OF lg;2cj OF lg;2PLUM
    2ORCHID;2BAMBOO;2CHRYSANTHEMUM;2SPRING;2SUMMER;2AUTUMN;2WINTER;2JOKER;2BACK
    1F030:0DOMINO TILE x BACK;2HORIZONTAL-00-00>7;2HORIZONTAL-01-00>7;2HORIZONTAL-02-00>7
    2HORIZONTAL-03-00>7;2HORIZONTAL-04-00>7;2HORIZONTAL-05-00>7;2HORIZONTAL-06-00>7;2q BACK
    2VERTICAL-00-00>7;2VERTICAL-01-00>7;2VERTICAL-02-00>7;2VERTICAL-03-00>7;2VERTICAL-04-00>7
    2VERTICAL-05-00>7;2VERTICAL-06-00>7;1F0A0:0PLAYING CARD BACK;2ACE OF SPADES;2bj OF SPADES
    2t OF SPADES;2at OF SPADES;2ay OF SPADES;2eu OF SPADES;2au OF SPADES;2ar OF SPADES
    2cj OF SPADES;2io OF SPADES;2JACK OF SPADES;2gt OF SPADES;2QUEEN OF SPADES;2KING OF SPADES
    1F0B1:2ACE OF ki;2bj OF ki;2t OF ki;2at OF ki;2ay OF ki;2eu OF ki;2au OF ki;2ar OF ki;2cj OF ki
    2io OF ki;2JACK OF ki;2gt OF ki;2QUEEN OF ki;2KING OF ki;2RED JOKER;1F0C1:2ACE OF iy;2bj OF iy
    2t OF iy;2at OF iy;2ay OF iy;2eu OF iy;2au OF iy;2ar OF iy;2cj OF iy;2io OF iy;2JACK OF iy
    2gt OF iy;2QUEEN OF iy;2KING OF iy;2y JOKER;1F0D1:2ACE OF CLUBS;2bj OF CLUBS;2t OF CLUBS
    2at OF CLUBS;2ay OF CLUBS;2eu OF CLUBS;2au OF CLUBS;2ar OF CLUBS;2cj OF CLUBS;2io OF CLUBS
    2JACK OF CLUBS;2gt OF CLUBS;2QUEEN OF CLUBS;2KING OF CLUBS;2z JOKER;2FOOL;2TRUMP-1>21
    1F100:0bs dt hf fb;2dq;1br dq;1bj dq;1t dq;1at dq;1ay dq;1eu dq;1au dq;1ar dq;1cj dq
    0DINGBAT cl dv bs dt;1hx cl dv bs dt;0cl dt b SLASH;1dn f;1DOLLAR g b OVERLAID BACKSLASH
    0PARENTHESIZED eo c a A;4B;4C;4D;4E;4F;4G;4H;4I;4J;4K;4L;4M;4N;4O;4P;4Q;4R;4S;4T;4U;4V;4W;4X;4Y
    4Z;0hg jt BRACKETED eo c a S;0cl ITALIC eo c a C;5R;1CD;1WZ;0COPYLEFT w;0eb eo c a A;4B;4C;4D
    4E;4F;4G;4H;4I;4J;4K;4L;4M;4N;4O;4P;4Q;4R;4S;4T;4U;4V;4W;4X;4Y;4Z;1HV;1MV;1SD;1SS;1PPV;1WC
    0hx cl eo c a A;5B;5C;5D;5E;5F;5G;5H;5I;5J;5K;5L;5M;5N;5O;5P;5Q;5R;5S;5T;5U;5V;5W;5X;5Y;5Z
    0hh MC g;1MD g;1MR g;0cl CC;1C b OVERLAID BACKSLASH;1HUMAN FIGURE;0hx eb eo c a A;5B;5C;5D;5E
    5F;5G;5H;5I;5J;5K;5L;5M;5N;5O;5P;5Q;5R;5S;5T;5U;5V;5W;5X;5Y;5Z;0la hx eb eo c a P;0hx eb IC;2PA
    2SA;2AB;2WC;0an DJ;0eb CL;1COOL;1FREE;1ID;1NEW;1NG;1OK;1SOS;1UP b cy ai;1VS;1t D;1SECOND SCREEN
    1bj K;1at K;1ar K;1ay POINT br;1au POINT br;1TWENTY-TWO POINT bj;1SIXTY P;1br ab em P;1eo d a D
    1HC;1HDR;1HI-RES;1LOSSLESS;1SHV;1UHD;1VOD;0MASK WORK w;1F1E6:0REGIONAL INDICATOR w a A;4B;4C;4D
    4E;4F;4G;4H;4I;4J;4K;4L;4M;4N;4O;4P;4Q;4R;4S;4T;4U;4V;4W;4X;4Y;4Z;0an HIRAGANA HOKA;0eb lf KOKO
    2SA;1F210:1CJK UNIFIED IDEOGRAPH-624B;3IDEOGRAPH-5B57;3IDEOGRAPH-53CC;1lf DE
    1CJK UNIFIED IDEOGRAPH-4E8C;3IDEOGRAPH-591A;3IDEOGRAPH-89E3;3IDEOGRAPH-5929;3IDEOGRAPH-4EA4
    3IDEOGRAPH-6620;3IDEOGRAPH-7121;3IDEOGRAPH-6599;3IDEOGRAPH-524D;3IDEOGRAPH-5F8C;3IDEOGRAPH-518D
    3IDEOGRAPH-65B0;3IDEOGRAPH-521D;3IDEOGRAPH-7D42;3IDEOGRAPH-751F;3IDEOGRAPH-8CA9;3IDEOGRAPH-58F0
    3IDEOGRAPH-5439;3IDEOGRAPH-6F14;3IDEOGRAPH-6295;3IDEOGRAPH-6355;3IDEOGRAPH-4E00;3IDEOGRAPH-4E09
    3IDEOGRAPH-904A;3IDEOGRAPH-5DE6;3IDEOGRAPH-4E2D;3IDEOGRAPH-53F3;3IDEOGRAPH-6307;3IDEOGRAPH-8D70
    3IDEOGRAPH-6253;3IDEOGRAPH-7981;3IDEOGRAPH-7A7A;3IDEOGRAPH-5408;3IDEOGRAPH-6E80;3IDEOGRAPH-6709
    3IDEOGRAPH-6708;3IDEOGRAPH-7533;3IDEOGRAPH-5272;3IDEOGRAPH-55B6;3IDEOGRAPH-914D
    1F240:0hg jt BRACKETED CJK UNIFIED IDEOGRAPH-672C;5IDEOGRAPH-4E09;5IDEOGRAPH-4E8C
    5IDEOGRAPH-5B89;5IDEOGRAPH-70B9;5IDEOGRAPH-6253;5IDEOGRAPH-76D7;5IDEOGRAPH-52DD;5IDEOGRAPH-6557
    1F250:0cl IDEOGRAPH ADVANTAGE;2ACCEPT;1F260:0ROUNDED w FOR FU;3LU;3SHOU;3XI;3SHUANGXI;3CAI
    1F300:0CYCLONE;0FOGGY;0fn UMBRELLA;0NIGHT b STARS;0SUNRISE cv MOUNTAINS;0SUNRISE
    0CITYSCAPE AT DUSK;0SUNSET cv BUILDINGS;0RAINBOW;0BRIDGE AT NIGHT;0WATER WAVE;0VOLCANO
    0MILKY WAY;0EARTH GLOBE EUROPE-AFRICA;2AMERICAS;2ASIA-AUSTRALIA;0GLOBE b MERIDIANS;0NEW MOON w
    0WAXING CRESCENT MOON w;0FIRST ek MOON w;0WAXING GIBBOUS MOON w;0hf MOON w
    0WANING GIBBOUS MOON w;0LAST ek MOON w;0WANING CRESCENT MOON w;0CRESCENT MOON;0NEW MOON b cs
    0FIRST ek MOON b cs;0LAST ek MOON b cs;0hf MOON b cs;0SUN b cs;0GLOWING gg;0SHOOTING gg
    0THERMOMETER;0y DROPLET;0z SUN;2b d CLOUD;2BEHIND CLOUD;4b RAIN;0CLOUD b RAIN;2SNOW;2LIGHTNING
    2TORNADO;0FOG;0WIND BLOWING cs;0HOT DOG;0TACO;0BURRITO;0CHESTNUT;0SEEDLING;0EVERGREEN TREE
    0DECIDUOUS TREE;0PALM TREE;0CACTUS;0HOT PEPPER;0TULIP;0CHERRY BLOSSOM;0ROSE;0HIBISCUS
    0SUNFLOWER;0BLOSSOM;0EAR OF MAIZE;2RICE;0HERB;0at LEAF CLOVER;0MAPLE LEAF;0FALLEN LEAF
    0LEAF FLUTTERING IN WIND;0MUSHROOM;0TOMATO;0AUBERGINE;0GRAPES;0MELON;0WATERMELON;0TANGERINE
    0LEMON;0BANANA;0PINEAPPLE;0RED APPLE;0GREEN APPLE;0PEAR;0PEACH;0CHERRIES;0STRAWBERRY;0HAMBURGER
    0SLICE OF PIZZA;0MEAT ON BONE;0POULTRY LEG;0RICE CRACKER;1BALL;0COOKED RICE;0CURRY p RICE
    0STEAMING BOWL;0SPAGHETTI;0BREAD;0FRENCH FRIES;0ROASTED SWEET POTATO;0DANGO;0ODEN;0SUSHI
    0FRIED SHRIMP;0FISH CAKE b SWIRL DESIGN;0SOFT ICE CREAM;0SHAVED ICE;0ICE CREAM;0DOUGHNUT
    0COOKIE;0CHOCOLATE fc;0CANDY;0LOLLIPOP;0CUSTARD;0HONEY POT;0SHORTCAKE;0BENTO BOX;0POT OF FOOD
    0COOKING;0FORK p KNIFE;0TEACUP WITHOUT HANDLE;0SAKE BOTTLE p CUP;0WINE GLASS;0COCKTAIL GLASS
    0TROPICAL DRINK;0BEER MUG;0CLINKING BEER MUGS;0BABY BOTTLE;0FORK p KNIFE b PLATE
    0BOTTLE b POPPING CORK;0POPCORN;0RIBBON;0WRAPPED PRESENT;0BIRTHDAY CAKE;0JACK-O-LANTERN
    0CHRISTMAS TREE;0FATHER CHRISTMAS;0FIREWORKS;0FIREWORK SPARKLER;0BALLOON;0PARTY POPPER
    0CONFETTI BALL;0TANABATA TREE;0la FLAGS;0PINE DECORATION;0JAPANESE DOLLS;0CARP STREAMER
    0WIND CHIME;0MOON VIEWING CEREMONY;0SCHOOL SATCHEL;0GRADUATION CAP;0ik b TIP ON THE o
    0BOUQUET OF FLOWERS;0MILITARY MEDAL;0REMINDER RIBBON;0kt KEYBOARD b JACKS;0STUDIO MICROPHONE
    0LEVEL SLIDER;0CONTROL KNOBS;0BEAMED ASCENDING kt NOTES;1DESCENDING kt NOTES;0FILM FRAMES
    0ADMISSION TICKETS;0CAROUSEL HORSE;0FERRIS WHEEL;0ROLLER COASTER;0FISHING POLE p FISH
    0MICROPHONE;0MOVIE CAMERA;0CINEMA;0HEADPHONE;0ARTIST PALETTE;0TOP HAT;0CIRCUS TENT;0TICKET
    0CLAPPER BOARD;0PERFORMING ARTS;0VIDEO GAME;0DIRECT HIT;0SLOT MACHINE;0BILLIARDS;0GAME DIE
    0BOWLING;0FLOWER PLAYING CARDS;0kt NOTE;0jm kt NOTES;0SAXOPHONE;0GUITAR;0kt KEYBOARD;0TRUMPET
    0VIOLIN;0kt SCORE;0RUNNING SHIRT b SASH;0TENNIS RACQUET p BALL;0SKI p SKI BOOT
    0BASKETBALL p HOOP;0CHEQUERED FLAG;0SNOWBOARDER;0RUNNER;0SURFER;0SPORTS MEDAL;0TROPHY
    0HORSE RACING;0AMERICAN FOOTBALL;0RUGBY FOOTBALL;0SWIMMER;0WEIGHT LIFTER;0GOLFER
    0RACING MOTORCYCLE;1CAR;0CRICKET BAT p BALL;0VOLLEYBALL;0FIELD HOCKEY STICK p BALL
    0ICE HOCKEY STICK p PUCK;0TABLE TENNIS PADDLE p BALL;0SNOW CAPPED MOUNTAIN;0CAMPING
    0BEACH b UMBRELLA;0BUILDING CONSTRUCTION;0HOUSE BUILDINGS;0CITYSCAPE;0DERELICT HOUSE BUILDING
    0CLASSICAL BUILDING;0DESERT;1ISLAND;0NATIONAL PARK;0STADIUM;0HOUSE BUILDING;1b GARDEN
    0OFFICE BUILDING;0JAPANESE POST OFFICE;0EUROPEAN POST OFFICE;0HOSPITAL;0BANK
    0AUTOMATED TELLER MACHINE;0HOTEL;0LOVE HOTEL;0CONVENIENCE STORE;0SCHOOL;0DEPARTMENT STORE
    0FACTORY;0IZAKAYA LANTERN;0JAPANESE CASTLE;0EUROPEAN CASTLE;0z PENNANT;0y PENNANT
    0WAVING z FLAG;1y FLAG;0ROSETTE;0y ROSETTE;0LABEL;0BADMINTON RACQUET p SHUTTLECOCK;0BOW p f
    0AMPHORA;0EMOJI dy FITZPATRICK TYPE-1-2;3TYPE-3>4;0RAT;0MOUSE;0OX;0WATER BUFFALO;0COW;0TIGER
    0LEOPARD;0RABBIT;0CAT;0DRAGON;0CROCODILE;0WHALE;0SNAIL;0SNAKE;0HORSE;0RAM;0GOAT;0SHEEP;0MONKEY
    0ROOSTER;0CHICKEN;0DOG;0PIG;0BOAR;0ELEPHANT;0OCTOPUS;0SPIRAL jt;0BUG;0ANT;0HONEYBEE
    0LADY BEETLE;0FISH;0TROPICAL FISH;0BLOWFISH;0TURTLE;0HATCHING CHICK;0BABY CHICK
    0FRONT-FACING BABY CHICK;0BIRD;0PENGUIN;0KOALA;0POODLE;0DROMEDARY CAMEL;0BACTRIAN CAMEL
    0DOLPHIN;0MOUSE cs;0COW cs;0TIGER cs;0RABBIT cs;0CAT cs;0DRAGON cs;0SPOUTING WHALE;0HORSE cs
    0MONKEY cs;0DOG cs;0PIG cs;0FROG cs;0HAMSTER cs;0WOLF cs;0BEAR cs;0PANDA cs;0PIG NOSE
    0PAW PRINTS;0CHIPMUNK;0EYES;0EYE;0EAR;0NOSE;0ld;0TONGUE;0z UP bb BACKHAND bi;1ce bb BACKHAND bi
    1o bb BACKHAND bi;1h bb BACKHAND bi;0FISTED lc g;0WAVING lc g;0OK lc g;0THUMBS UP g;1ce g
    0CLAPPING HANDS g;0eg HANDS g;0CROWN;0WOMANS HAT;0EYEGLASSES;0NECKTIE;0T-SHIRT;0JEANS;0DRESS
    0KIMONO;0BIKINI;0WOMANS CLOTHES;0PURSE;0HANDBAG;0POUCH;0MANS SHOE;0ATHLETIC SHOE
    0HIGH-HEELED SHOE;0WOMANS SANDAL;1BOOTS;0FOOTPRINTS;0BUST IN SILHOUETTE;0BUSTS IN SILHOUETTE
    0BOY;0GIRL;0MAN;0WOMAN;0FAMILY;0MAN p WOMAN HOLDING HANDS;0bj MEN HOLDING HANDS
    1WOMEN HOLDING HANDS;0POLICE OFFICER;0WOMAN b BUNNY EARS;0BRIDE b VEIL;0lb b BLOND HAIR
    0MAN b GUA PI MAO;2TURBAN;0OLDER MAN;1WOMAN;0BABY;0CONSTRUCTION WORKER;0PRINCESS;0JAPANESE OGRE
    1GOBLIN;0GHOST;0BABY ANGEL;0EXTRATERRESTRIAL ALIEN;0ALIEN MONSTER;0IMP;0SKULL
    0INFORMATION DESK lb;0GUARDSMAN;0DANCER;0LIPSTICK;0NAIL POLISH;0cs MASSAGE;0HAIRCUT
    0BARBER POLE;0SYRINGE;0PILL;0KISS ai;0LOVE a;0di;0GEM STONE;0KISS;0BOUQUET;0COUPLE b ik
    0WEDDING;0BEATING ik;0BROKEN ik;0bj ki;0SPARKLING ik;0GROWING ik;0ik b f;0BLUE ik;0GREEN ik
    0YELLOW ik;0PURPLE ik;0ik b RIBBON;0REVOLVING ki;0ik DECORATION;0dk SHAPE b A bx jj
    0ELECTRIC bn BULB;0ANGER w;0BOMB;0SLEEPING w;0COLLISION w;0SPLASHING SWEAT w;0DROPLET;0im w
    0PILE OF POO;0FLEXED BICEPS;0DIZZY w;0SPEECH BALLOON;0THOUGHT BALLOON;0z FLOWER;0ab POINTS w
    0MONEY BAG;0CURRENCY EXCHANGE;0al DOLLAR g;0CREDIT CARD;0BANKNOTE b YEN g;2DOLLAR g;2EURO g
    2POUND g;0MONEY b WINGS;0CHART b ap TREND p YEN g;0SEAT;0PERSONAL COMPUTER;0BRIEFCASE;0MINIDISC
    0FLOPPY DISK;0OPTICAL DISC;0DVD;0FILE FOLDER;0eg FILE FOLDER;0PAGE b CURL;1FACING UP;0CALENDAR
    0TEAR-OFF CALENDAR;0CARD bi;0CHART b ap TREND;2aa TREND;0fc CHART;0CLIPBOARD;0PUSHPIN
    0ROUND PUSHPIN;0PAPERCLIP;0fk RULER;0ee RULER;0BOOKMARK TABS;0LEDGER;0NOTEBOOK
    1b DECORATIVE COVER;0fn BOOK;0eg BOOK;0GREEN BOOK;0BLUE BOOK;0ORANGE BOOK;0BOOKS;0NAME BADGE
    0SCROLL;0MEMO;0ja RECEIVER;0PAGER;0FAX MACHINE;0SATELLITE ANTENNA;0PUBLIC ADDRESS LOUDSPEAKER
    0CHEERING MEGAPHONE;0OUTBOX TRAY;0INBOX TRAY;0PACKAGE;0E-MAIL w;0INCOMING ENVELOPE
    0ENVELOPE b aa f i;0fn MAILBOX b LOWERED FLAG;3hh FLAG;0eg MAILBOX b hh FLAG;3LOWERED FLAG
    0POSTBOX;0POSTAL jw;0NEWSPAPER;0MOBILE PHONE;2b k f AT o;0VIBRATION MODE;0MOBILE PHONE OFF
    0NO MOBILE PHONES;0ANTENNA b BARS;0CAMERA;1b FLASH;0VIDEO CAMERA;0TELEVISION;0RADIO
    0VIDEOCASSETTE;0FILM PROJECTOR;0PORTABLE STEREO;0PRAYER BEADS;0TWISTED k kv;0ii k p r eg ao kv
    7b cl br gn;1aa p ap eg ao kv;0dn aa p ap eg ao kv;0ho BRIGHTNESS w;0ew BRIGHTNESS w
    0SPEAKER b CANCELLATION v;0SPEAKER;1b br SOUND WAVE;2t SOUND WAVES;0BATTERY;0ELECTRIC PLUG
    0de MAGNIFYING GLASS;0cc MAGNIFYING GLASS;0LOCK b INK PEN;0fn LOCK b KEY;0KEY;0LOCK;0eg LOCK
    0BELL;1b CANCELLATION v;0BOOKMARK;0LINK w;0RADIO BUTTON;0BACK b r f i;0END b r f i
    0ON b cy ai b o h f i;0SOON b k f i;0TOP b ap f i;0NO br UNDER EIGHTEEN w;0KEYCAP io
    0INPUT w FOR eo c LETTERS;4d LETTERS;3NUMBERS;3SYMBOLS;3eo LETTERS;0FIRE;0ELECTRIC TORCH
    0WRENCH;0HAMMER;0NUT p BOLT;0HOCHO;0PISTOL;0MICROSCOPE;0TELESCOPE;0CRYSTAL BALL
    0eu ea gg b ad bx;0JAPANESE w FOR BEGINNER;0TRIDENT EMBLEM;0y an BUTTON;0z an BUTTON;0dd RED ao
    1BLUE ao;1ORANGE dk;1BLUE dk;0d ORANGE dk;1BLUE dk;0gf RED ah;0gc RED ah;0gf d RED ah
    0gc d RED ah;0bt h jp z ao;0cr h jp z ao;0cl fr POMMEE;0fr POMMEE b HALF-CIRCLE m;1POMMEE
    0NOTCHED o SEMICIRCLE b t cu;1h SEMICIRCLE b t cu;0w FOR MARKS CHAPTER;0z eo fr;0al eo fr
    0CELTIC fr;0OM w;0DOVE OF PEACE;0KAABA;0MOSQUE;0SYNAGOGUE;0MENORAH b cj BRANCHES
    0BOWL OF HYGIEIA;0CLOCK cs br OCLOCK;2bj OCLOCK;2t OCLOCK;2at OCLOCK;2ay OCLOCK;2eu OCLOCK
    2au OCLOCK;2ar OCLOCK;2cj OCLOCK;2io OCLOCK;2ELEVEN OCLOCK;2TWELVE OCLOCK;2ONE-THIRTY
    2TWO-THIRTY;2THREE-THIRTY;2FOUR-THIRTY;2FIVE-THIRTY;2SIX-THIRTY;2SEVEN-THIRTY;2EIGHT-THIRTY
    2NINE-THIRTY;2TEN-THIRTY;2ELEVEN-THIRTY;2TWELVE-THIRTY;0h SPEAKER;2b br SOUND WAVE
    3t SOUND WAVES;0BULLHORN;1b SOUND WAVES;0RINGING BELL;0BOOK;0CANDLE;0MANTELPIECE CLOCK
    0y SKULL p CROSSBONES;0NO PIRACY;0HOLE;0MAN IN BUSINESS SUIT LEVITATING;0SLEUTH OR SPY
    0DARK SUNGLASSES;0SPIDER;1WEB;0JOYSTICK;0MAN DANCING;0o lc ja RECEIVER;0ja RECEIVER b PAGE
    0h lc ja RECEIVER;0z TOUCHTONE ja;0y TOUCHTONE ja;0ja ON TOP OF MODEM;0CLAMSHELL MOBILE PHONE
    0BACK OF ENVELOPE;0STAMPED ENVELOPE;0ENVELOPE b LIGHTNING;0FLYING ENVELOPE
    0PEN cv STAMPED ENVELOPE;0LINKED PAPERCLIPS;0y PUSHPIN;0bt o PENCIL;2BALLPOINT PEN
    2FOUNTAIN PEN;2PAINTBRUSH;2CRAYON;0o WRITING lc;0bg OK lc g;0hh lc b gj SPLAYED
    0aq hh lc b gj SPLAYED;1THUMBS UP g;2ce g;1VICTORY lc;1lc b ad FINGER EXTENDED
    0hh lc b PART is ad p di gj;0z ce bb o lc bi;0SIDEWAYS z o bb bi;2h bb bi;1y o bb bi;2h bb bi
    0y o bb BACKHAND bi;1h bb BACKHAND bi;0SIDEWAYS z UP bb bi;2ce bb bi;1y UP bb bi;2ce bb bi
    0y UP bb BACKHAND bi;1ce bb BACKHAND bi;1ik;0DESKTOP COMPUTER;0KEYBOARD p MOUSE
    0t NETWORKED COMPUTERS;0PRINTER;0POCKET CALCULATOR;0y HARD jt FLOPPY DISK
    0z HARD jt FLOPPY DISK;0SOFT jt FLOPPY DISK;0TAPE CARTRIDGE;0WIRED KEYBOARD;0br BUTTON MOUSE
    0bj BUTTON MOUSE;0t BUTTON MOUSE;0TRACKBALL;0OLD PERSONAL COMPUTER;0HARD DISK;0SCREEN
    0PRINTER ICON;0FAX ICON;0OPTICAL DISC ICON;0DOCUMENT b TEXT;3p PICTURE;2PICTURE
    0FRAME b PICTURE;2TILES;2AN X;0y FOLDER;0FOLDER;0eg FOLDER;0CARD bi DIVIDERS;1FILE BOX
    0FILE CABINET;0EMPTY NOTE;2PAGE;2PAD;0NOTE;1PAGE;1PAD;0EMPTY DOCUMENT;1PAGE;1PAGES;0DOCUMENT
    0PAGE;0PAGES;0WASTEBASKET;0SPIRAL NOTE PAD;1CALENDAR PAD;0DESKTOP WINDOW;0MINIMIZE;0MAXIMIZE
    0OVERLAP;0ii h p o SEMICIRCLE kv;0CANCELLATION X;0INCREASE FONT SIZE w;0DECREASE FONT SIZE w
    0COMPRESSION;0OLD KEY;0ROLLED-UP NEWSPAPER;0PAGE b cl TEXT;0STOCK CHART;0DAGGER KNIFE;0LIPS
    0SPEAKING HEAD IN SILHOUETTE;0t RAYS i;2m;2o;2h;0o SPEECH BUBBLE;0h SPEECH BUBBLE
    0bj SPEECH BUBBLES;0t SPEECH BUBBLES;0o THOUGHT BUBBLE;0h THOUGHT BUBBLE;0o ANGER BUBBLE
    0h ANGER BUBBLE;0MOOD BUBBLE;0LIGHTNING MOOD BUBBLE;1MOOD;0BALLOT BOX b BALLOT;1hk X
    1BOX b hk X;1BOLD hk X;1BOX b BOLD hk X;0bn CHECK ai;0BALLOT BOX b BOLD CHECK;0WORLD MAP
    0MOUNT FUJI;0TOKYO TOWER;0STATUE OF LIBERTY;0SILHOUETTE OF JAPAN;0MOYAI;0GRINNING cs;2b it EYES
    0cs b TEARS OF JOY;0it cs b eg ld;5p it EYES;6COLD SWEAT;6TIGHTLY-CLOSED EYES;3HALO;3HORNS
    0WINKING cs;0it cs b it EYES;0cs SAVOURING DELICIOUS FOOD;0RELIEVED cs
    0it cs b HEART-SHAPED EYES;3SUNGLASSES;0SMIRKING cs;0hc cs;0EXPRESSIONLESS cs;0UNAMUSED cs
    0cs b COLD SWEAT;0PENSIVE cs;0CONFUSED cs;0CONFOUNDED cs;0KISSING cs;0cs THROWING A KISS
    0KISSING cs b it EYES;3fn EYES;0cs b STUCK-OUT TONGUE;4p WINKING EYE;5TIGHTLY-CLOSED EYES
    0DISAPPOINTED cs;0WORRIED cs;0ANGRY cs;0POUTING cs;0CRYING cs;0PERSEVERING cs
    0cs b LOOK OF TRIUMPH;0DISAPPOINTED BUT RELIEVED cs;0FROWNING cs b eg ld;0ANGUISHED cs
    0FEARFUL cs;0WEARY cs;0SLEEPY cs;0TIRED cs;0GRIMACING cs;0LOUDLY CRYING cs;0cs b eg ld
    0HUSHED cs;0cs b eg ld p COLD SWEAT;1SCREAMING IN FEAR;0ASTONISHED cs;0FLUSHED cs;0SLEEPING cs
    0DIZZY cs;0cs WITHOUT ld;1b MEDICAL MASK;0GRINNING CAT cs b it EYES;0CAT cs b TEARS OF JOY
    0it CAT cs b eg ld;4HEART-SHAPED EYES;0CAT cs b WRY SMILE;0KISSING CAT cs b fn EYES
    0POUTING CAT cs;0CRYING CAT cs;0WEARY CAT cs;0SLIGHTLY FROWNING cs;1it cs;0UPSIDE-DOWN cs
    0cs b ROLLING EYES;2NO GOOD GESTURE;2OK GESTURE;0lb BOWING DEEPLY;0SEE-NO-EVIL MONKEY
    0HEAR-NO-EVIL MONKEY;0SPEAK-NO-EVIL MONKEY;0HAPPY lb RAISING br lc
    0lb RAISING BOTH HANDS IN CELEBRATION;1FROWNING;1b POUTING cs;2FOLDED HANDS;0fg gw bb LEAF
    0fu gw bb LEAF;0fg fz bb LEAF;0fu fz bb LEAF;0bg fg gw bb LEAF;1fu gw bb LEAF;1fg fz bb LEAF
    1fu fz bb LEAF;0fg gw bb VINE LEAF;0fu gw bb VINE LEAF;0fg fz bb VINE LEAF;0fu fz bb VINE LEAF
    0al fg gw bb VINE LEAF;1fu gw bb VINE LEAF;1fg fz bb VINE LEAF;1fu fz bb VINE LEAF
    0fg gw bb BUD;0fu gw bb BUD;0fg fz bb BUD;0fu fz bb BUD;0al fg gw bb BUD;1fu gw bb BUD
    1fg fz bb BUD;1fu fz bb BUD;0HOLLOW QUILT an bo;4IN y an;0SOLID QUILT an bo;4IN y an;0r ROCKET
    0ap ROCKET;0k ROCKET;0aa ROCKET;0hk dl ET bo;0al hk dl ET bo;0dl eg ET bo;0al dl eg ET bo
    1AMPERSAND bo;0SWASH AMPERSAND bo;0dv al l bg dq dh ai bo;3dq dh ai bo;2ho l dq dh ai bo
    0al INTERROBANG bo;0dv INTERROBANG bo;0al dv INTERROBANG bo;0VERY al gh;2gx gh;0CHECKER BOARD
    0gx CHECKER BOARD;0ROCKET;0HELICOPTER;0STEAM LOCOMOTIVE;0RAILWAY CAR;0HIGH-SPEED TRAIN
    2b BULLET NOSE;0TRAIN;0METRO;0bn RAIL;0STATION;0TRAM;1CAR;0BUS;0ONCOMING BUS;0TROLLEYBUS
    0BUS fb;0MINIBUS;0AMBULANCE;0FIRE ENGINE;0POLICE CAR;0ONCOMING POLICE CAR;0TAXI;0ONCOMING TAXI
    0AUTOMOBILE;0ONCOMING AUTOMOBILE;0RECREATIONAL VEHICLE;0DELIVERY TRUCK;0ARTICULATED LORRY
    0TRACTOR;0MONORAIL;0MOUNTAIN RAILWAY;0SUSPENSION RAILWAY;0MOUNTAIN CABLEWAY;0AERIAL TRAMWAY
    0SHIP;0ROWBOAT;0SPEEDBOAT;0x TRAFFIC bn;0q TRAFFIC bn;0CONSTRUCTION g;0POLICE CARS REVOLVING bn
    0ee FLAG ON POST;0DOOR;0NO ENTRY g;0SMOKING w;0NO SMOKING w;0PUT LITTER IN ITS PLACE w
    0DO li LITTER w;0POTABLE WATER w;0NON-POTABLE WATER w;0BICYCLE;0NO BICYCLES;0BICYCLIST
    0MOUNTAIN BICYCLIST;0PEDESTRIAN;0NO PEDESTRIANS;0CHILDREN ds;0MENS w;0WOMENS w;0RESTROOM
    0BABY w;0TOILET;0WATER CLOSET;0SHOWER;0BATH;0BATHTUB;0PASSPORT CONTROL;0CUSTOMS;0BAGGAGE CLAIM
    0o LUGGAGE;0ah b ROUNDED CORNERS;0PROHIBITED g;0cl INFORMATION SOURCE;0BOYS w;0GIRLS w
    0COUCH p LAMP;0SLEEPING ACCOMMODATION;0SHOPPING BAGS;0BELLHOP BELL;0BED;0PLACE OF WORSHIP
    0OCTAGONAL g;0SHOPPING TROLLEY;0STUPA;0PAGODA;0HINDU TEMPLE;0HUT;0ELEVATOR
    1F6DD:0PLAYGROUND SLIDE;0WHEEL;0di BUOY;0HAMMER p WRENCH;0SHIELD;0OIL DRUM;0MOTORWAY
    0RAILWAY TRACK;0MOTOR BOAT;0gf MILITARY AIRPLANE;1AIRPLANE;1d AIRPLANE;0d AIRPLANE
    0NORTHEAST-POINTING AIRPLANE;0AIRPLANE DEPARTURE;1ARRIVING;1F6F0:0SATELLITE
    0ONCOMING FIRE ENGINE;0DIESEL LOCOMOTIVE;0PASSENGER SHIP;0SCOOTER;0MOTOR SCOOTER;0CANOE;0SLED
    0FLYING SAUCER;0SKATEBOARD;0AUTO RICKSHAW;0PICKUP TRUCK;0ROLLER SKATE
    1F700:0ALCHEMICAL w FOR QUINTESSENCE;3AIR;3FIRE;3EARTH;3WATER;3AQUAFORTIS;3AQUA REGIA;4REGIA-2
    4VITAE;4VITAE-2;3VINEGAR;3VINEGAR-2;3VINEGAR-3;3SULFUR;3PHILOSOPHERS SULFUR;3y SULFUR
    3MERCURY SUBLIMATE;4SUBLIMATE-2;4SUBLIMATE-3;3CINNABAR;3SALT;3NITRE;3VITRIOL;3VITRIOL-2
    3ROCK SALT;4SALT-2;3GOLD;3SILVER;3IRON ORE;4ORE-2;3CROCUS OF IRON;3REGULUS OF IRON;3COPPER ORE
    3IRON-COPPER ORE;3SUBLIMATE OF COPPER;3CROCUS OF COPPER;5COPPER-2;3COPPER ANTIMONIATE
    3SALT OF COPPER ANTIMONIATE;3SUBLIMATE OF SALT OF COPPER;3VERDIGRIS;3TIN ORE;3LEAD ORE
    3ANTIMONY ORE;3SUBLIMATE OF ANTIMONY;3SALT OF ANTIMONY;3SUBLIMATE OF SALT OF ANTIMONY
    3VINEGAR OF ANTIMONY;3REGULUS OF ANTIMONY;5ANTIMONY-2;3REGULUS;3REGULUS-2>3;3ALKALI;3ALKALI-2
    3MARCASITE;3SAL-AMMONIAC;3ARSENIC;3REALGAR;3REALGAR-2;3AURIPIGMENT;3BISMUTH ORE;3TARTAR
    3TARTAR-2;3QUICK LIME;3BORAX;3BORAX-2;3BORAX-3;3ALUM;3OIL;3SPIRIT;3TINCTURE;3GUM;3WAX;3POWDER
    3CALX;3TUTTY;3CAPUT MORTUUM;3SCEPTER OF JOVE;3CADUCEUS;3TRIDENT;3STARRED TRIDENT;3LODESTONE
    3SOAP;3URINE;3HORSE DUNG;3ASHES;3POT ASHES;3BRICK;3POWDERED BRICK;3AMALGAM
    3STRATUM SUPER STRATUM;5STRATUM-2;3SUBLIMATION;3PRECIPITATE;3DISTILL;3DISSOLVE;3DISSOLVE-2
    3PURIFY;3PUTREFACTION;3CRUCIBLE;3CRUCIBLE-2>4;3ALEMBIC;3BATH OF MARY;5VAPOURS;3RETORT;3HOUR
    3NIGHT;3DAY-NIGHT;3MONTH;3cd DRAM;4OUNCE;1F780:0y de ISOSCELES h ah;1gf ISOSCELES h ah
    1cc ISOSCELES h ah;1gc ISOSCELES h ah;1SLIGHTLY d ao;0bd BOLD z ao;0BOLD z ao;0al z ao
    0VERY al z ao;0EXTREMELY al z ao;0z ao CONTAINING y d ao;0ROUND TARGET;0y TINY an
    1SLIGHTLY d an;0bn z an;0bd z an;0BOLD z an;0al z an;0VERY al z an;0EXTREMELY al z an
    0z an CONTAINING y VERY d an;4bd an;0an TARGET;0y TINY dk;1VERY d dk;1bd d dk
    0z dk CONTAINING y VERY d dk;4bd dk;0dk TARGET;0y TINY kz;1VERY d kz;1bd d kz
    0z kz CONTAINING y d kz;0THIN jg fr;0bn jg fr;0bd jg fr;0BOLD jg fr;0VERY BOLD jg fr;1al jg fr
    0EXTREMELY al jg fr;0THIN SALTIRE;0bn SALTIRE;0bd SALTIRE;0BOLD SALTIRE;0al SALTIRE
    0VERY al SALTIRE;0EXTREMELY al SALTIRE;0bn ay ju ch;0bd ay ju ch;0BOLD ay ju ch;0al ay ju ch
    0VERY al ay ju ch;0EXTREMELY al ay ju ch;0bn eu ju ch;0bd eu ju ch;0BOLD eu ju ch;0al eu ju ch
    0VERY al eu ju ch;0EXTREMELY al eu ju ch;0bn ar ju ch;0bd ar ju ch;0BOLD ar ju ch;0al ar ju ch
    0VERY al ar ju ch;0bn t ea y gg;0bd t ea y gg;0t ea y gg;0bd t ea PINWHEEL gg;0bn at ea y gg
    0bd at ea y gg;0at ea y gg;0bd at ea PINWHEEL gg;0gx bn at ea PINWHEEL gg;0bn ay ea y gg
    0al ay ea y gg;0bd eu ea y gg;0al eu ea y gg;0eu ea PINWHEEL gg;0bd ar ea y gg;0al ar ea y gg
    0VERY al ar ea y gg;0al ar ea PINWHEEL gg;0bn TWELVE ea y gg;0al TWELVE ea y gg;3PINWHEEL gg
    0cl ah;0hx cl ah;0cl an;0hx cl an;1F7E0:0dd ORANGE ao;1YELLOW ao;1GREEN ao;1PURPLE ao;1BROWN ao
    1RED an;1BLUE an;1ORANGE an;1YELLOW an;1GREEN an;1PURPLE an;1BROWN an;1F7F0:0al fm g
    1F800:0r f b d ah am;0ap f b d ah am;0k f b d ah am;0aa f b d ah am;0r f b bd ah am
    0ap f b bd ah am;0k f b bd ah am;0aa f b bd ah am;0r f b dd ah am;0ap f b dd ah am
    0k f b dd ah am;0aa f b dd ah am;1F810:0r f b d dg am;0ap f b d dg am;0k f b d dg am
    0aa f b d dg am;0r f b dg am;0ap f b dg am;0k f b dg am;0aa f b dg am;0al r f b dg am
    1ap f b dg am;1k f b dg am;1aa f b dg am;1r f b dd dg am;1ap f b dd dg am;1k f b dd dg am
    1aa f b dd dg am;0r u f b NARROW ko;0ap u f b NARROW ko;0k u f b NARROW ko;0aa u f b NARROW ko
    0r u f b bd ko;0ap u f b bd ko;0k u f b bd ko;0aa u f b bd ko;0r u f b BOLD ko
    0ap u f b BOLD ko;0k u f b BOLD ko;0aa u f b BOLD ko;0r u f b al ko;0ap u f b al ko
    0k u f b al ko;0aa u f b al ko;0r u f b VERY al ko;0ap u f b VERY al ko;0k u f b VERY al ko
    0aa u f b VERY al ko;0r FINGER-POST f;0ap FINGER-POST f;0k FINGER-POST f;0aa FINGER-POST f
    0r eb f;0ap eb f;0k eb f;0aa eb f;0r COMPRESSED f;0ap COMPRESSED f;0k COMPRESSED f
    0aa COMPRESSED f;0r al COMPRESSED f;0ap al COMPRESSED f;0k al COMPRESSED f;0aa al COMPRESSED f
    0r al f;0ap al f;0k al f;0aa al f;1F850:0r dv f;0ap dv f;0k dv f;0aa dv f;0fg gw dv f;1fz dv f
    0fu fz dv f;1gw dv f;0o h dv f;0UP ce dv f;1F860:0WIDE-HEADED r bn dm f;1ap bn dm f;1k bn dm f
    1aa bn dm f;1fg gw bn dm f;2fz bn dm f;1fu fz bn dm f;2gw bn dm f;1r dm f;1ap dm f;1k dm f
    1aa dm f;1fg gw dm f;2fz dm f;1fu fz dm f;2gw dm f;1r bd dm f;1ap bd dm f;1k bd dm f
    1aa bd dm f;1fg gw bd dm f;2fz bd dm f;1fu fz bd dm f;2gw bd dm f;1r al dm f;1ap al dm f
    1k al dm f;1aa al dm f;1fg gw al dm f;2fz al dm f;1fu fz al dm f;2gw al dm f;1r VERY al dm f
    1ap VERY al dm f;1k VERY al dm f;1aa VERY al dm f;1fg gw VERY al dm f;2fz VERY al dm f
    1fu fz VERY al dm f;2gw VERY al dm f;1F890:0r ah am;0ap ah am;0k ah am;0aa ah am
    0r z f WITHIN ah am;0ap z f WITHIN ah am;0k z f WITHIN ah am;0aa z f WITHIN ah am
    0r f b NOTCHED gr;0ap f b NOTCHED gr;0k f b NOTCHED gr;0aa f b NOTCHED gr;0al f ko WIDTH br
    4bj THIRDS;4br cd;5THIRD;0r BOTTOM-SHADED z f;0k fy SHADED z f;0r TOP SHADED z f
    0k TOP SHADED z f;0r LEFT-SHADED z f;0k RIGHT-SHADED z f;0r RIGHT-SHADED z f;0k LEFT-SHADED z f
    0r BACK-TILTED jp z f;0k BACK-TILTED jp z f;0r FRONT-TILTED jp z f;0k FRONT-TILTED jp z f
    0z f ko WIDTH br;4bj THIRDS;1F8B0:0f bb ap THEN fg gw;2k THEN CURVING fu gw
    1F900:0cl fr FORMEE b at cu;4bj cu;2FORMEE;0o cd ao b at cu;4t cu;4bj cu;4bx;2ao
    0DOWNWARD FACING av;2NOTCHED av;2av b bx;2NOTCHED av b bx;0PINCHED gj;0z ik;0BROWN ik
    0PINCHING lc;0ZIPPER-MOUTH cs;0MONEY-MOUTH cs;0cs b THERMOMETER;0NERD cs;0THINKING cs
    0cs b HEAD-BANDAGE;0ROBOT cs;0HUGGING cs;0g OF THE HORNS;0CALL ME lc;0hh BACK OF lc
    0LEFT-FACING FIST;0RIGHT-FACING FIST;0HANDSHAKE;0lc b bi p ad gj la;0I LOVE YOU lc g
    0cs b COWBOY HAT;0CLOWN cs;0NAUSEATED cs;0ROLLING ON THE FLOOR LAUGHING;0DROOLING cs;0LYING cs
    0cs PALM;0SNEEZING cs;0cs b br EYEBROW hh;0GRINNING cs b gg EYES;3br dd p br d EYE
    0cs b FINGER COVERING fn LIPS;0SERIOUS cs b SYMBOLS COVERING ld
    0it cs b it EYES p lc COVERING ld;0cs b eg ld VOMITING;0SHOCKED cs b EXPLODING HEAD
    0PREGNANT WOMAN;0BREAST-FEEDING;0PALMS UP TOGETHER;0SELFIE;0PRINCE;0MAN IN TUXEDO
    0MOTHER CHRISTMAS;0SHRUG;0lb DOING CARTWHEEL;0JUGGLING;0FENCER;0MODERN PENTATHLON;0WRESTLERS
    0WATER POLO;0HANDBALL;0DIVING MASK;0WILTED FLOWER;0DRUM b DRUMSTICKS;0CLINKING GLASSES
    0TUMBLER GLASS;0SPOON;0GOAL NET;0RIFLE;0FIRST PLACE MEDAL;0SECOND PLACE MEDAL
    0THIRD PLACE MEDAL;0BOXING GLOVE;0MARTIAL ARTS UNIFORM;0CURLING STONE;0LACROSSE STICK p BALL
    0SOFTBALL;0FLYING DISC;0CROISSANT;0AVOCADO;0CUCUMBER;0BACON;0POTATO;0CARROT;0BAGUETTE BREAD
    0GREEN SALAD;0SHALLOW PAN OF FOOD;0STUFFED FLATBREAD;0EGG;0GLASS OF MILK;0PEANUTS;0KIWIFRUIT
    0PANCAKES;0DUMPLING;0FORTUNE COOKIE;0TAKEOUT BOX;0CHOPSTICKS;0BOWL b SPOON;0CUP b STRAW
    0COCONUT;0BROCCOLI;0PIE;0PRETZEL;0CUT OF MEAT;0SANDWICH;0CANNED FOOD;0LEAFY GREEN;0MANGO
    0MOON CAKE;0BAGEL;0it cs b it EYES p t ki;0YAWNING cs;0it cs b TEAR;0cs b PARTY jw p PARTY HAT
    2UNEVEN EYES p WAVY ld;0OVERHEATED cs;0FREEZING cs;0NINJA;0DISGUISED cs;0cs HOLDING BACK TEARS
    1b PLEADING EYES;0SARI;0LAB COAT;0GOGGLES;0HIKING BOOT;0FLAT SHOE;0CRAB;0LION cs;0SCORPION
    0TURKEY;0UNICORN cs;0EAGLE;0DUCK;0BAT;0SHARK;0OWL;0FOX cs;0BUTTERFLY;0DEER;0GORILLA;0LIZARD
    0RHINOCEROS;0SHRIMP;0SQUID;0GIRAFFE cs;0ZEBRA cs;0HEDGEHOG;0SAUROPOD;0T-REX;0CRICKET;0KANGAROO
    0LLAMA;0PEACOCK;0HIPPOPOTAMUS;0PARROT;0RACCOON;0LOBSTER;0MOSQUITO;0MICROBE;0BADGER;0SWAN
    0MAMMOTH;0DODO;0SLOTH;0OTTER;0ORANGUTAN;0SKUNK;0FLAMINGO;0OYSTER;0BEAVER;0BISON;0SEAL
    0GUIDE DOG;0PROBING CANE;0EMOJI COMPONENT RED HAIR;2jc HAIR;2BALD;2z HAIR;0BONE;0LEG;0FOOT
    0TOOTH;0SUPERHERO;0SUPERVILLAIN;0SAFETY VEST;0EAR b HEARING AID;0MOTORIZED WHEELCHAIR
    0MANUAL WHEELCHAIR;0MECHANICAL ARM;1LEG;0CHEESE WEDGE;0CUPCAKE;0SALT SHAKER;0BEVERAGE BOX
    0GARLIC;0ONION;0FALAFEL;0WAFFLE;0BUTTER;0MATE DRINK;0ICE CUBE;0BUBBLE TEA;0TROLL;0STANDING lb
    0KNEELING lb;0DEAF lb;0cs b MONOCLE;0ADULT;0CHILD;0OLDER ADULT;0BEARDED lb;0lb b HEADSCARF
    1IN STEAMY ROOM;1CLIMBING;1IN LOTUS POSITION;0MAGE;0FAIRY;0VAMPIRE;0MERPERSON;0ELF;0GENIE
    0ZOMBIE;0BRAIN;0ORANGE ik;0BILLED CAP;0SCARF;0GLOVES;0COAT;0SOCKS;0RED GIFT ENVELOPE
    0FIRECRACKER;0JIGSAW PUZZLE PIECE;0TEST TUBE;0PETRI DISH;0DNA l HELIX;0COMPASS;0ABACUS
    0FIRE EXTINGUISHER;0TOOLBOX;0BRICK;0MAGNET;0LUGGAGE;0LOTION BOTTLE;0SPOOL OF THREAD
    0BALL OF YARN;0SAFETY PIN;0TEDDY BEAR;0BROOM;0BASKET;0ROLL OF PAPER;0fc OF SOAP;0SPONGE
    0RECEIPT;0NAZAR AMULET;0hc hq KING;2QUEEN;2ROOK;2BISHOP;2gt;2PAWN;0z hq gt bp FORTY-FIVE cn
    0y hq gt bp FORTY-FIVE cn;0hc hq gt bp FORTY-FIVE cn;0z hq KING bp fa cn;2QUEEN bp fa cn
    2ROOK bp fa cn;2BISHOP bp fa cn;2gt bp fa cn;2PAWN bp fa cn;0y hq KING bp fa cn;2QUEEN bp fa cn
    2ROOK bp fa cn;2BISHOP bp fa cn;2gt bp fa cn;2PAWN bp fa cn;0hc hq KING bp fa cn
    2QUEEN bp fa cn;2ROOK bp fa cn;2BISHOP bp fa cn;2gt bp fa cn;2PAWN bp fa cn
    0z hq gt bp br ab THIRTY-FIVE cn;0y hq gt bp br ab THIRTY-FIVE cn
    0hc hq gt bp br ab THIRTY-FIVE cn;0z hq bg KING;3QUEEN;3ROOK;3BISHOP;3gt;3PAWN;0y hq bg KING
    3QUEEN;3ROOK;3BISHOP;3gt;3PAWN;0hc hq bg KING;3QUEEN;3ROOK;3BISHOP;3gt;3PAWN
    0z hq gt bp bj ab TWENTY-FIVE cn;0y hq gt bp bj ab TWENTY-FIVE cn
    0hc hq gt bp bj ab TWENTY-FIVE cn;0z hq KING bp bj ab eh cn;2QUEEN bp bj ab eh cn
    2ROOK bp bj ab eh cn;2BISHOP bp bj ab eh cn;2gt bp bj ab eh cn;2PAWN bp bj ab eh cn
    0y hq KING bp bj ab eh cn;2QUEEN bp bj ab eh cn;2ROOK bp bj ab eh cn;2BISHOP bp bj ab eh cn
    2gt bp bj ab eh cn;2PAWN bp bj ab eh cn;0hc hq KING bp bj ab eh cn;2QUEEN bp bj ab eh cn
    2ROOK bp bj ab eh cn;2BISHOP bp bj ab eh cn;2gt bp bj ab eh cn;2PAWN bp bj ab eh cn
    0z hq gt bp t ab FIFTEEN cn;0y hq gt bp t ab FIFTEEN cn;0hc hq gt bp t ab FIFTEEN cn
    0z hq EQUIHOPPER;0y hq EQUIHOPPER;0hc hq EQUIHOPPER;0z hq EQUIHOPPER bp fa cn
    0y hq EQUIHOPPER bp fa cn;0hc hq EQUIHOPPER bp fa cn;0z hq KNIGHT-QUEEN;2KNIGHT-ROOK
    2KNIGHT-BISHOP;0y hq KNIGHT-QUEEN;2KNIGHT-ROOK;2KNIGHT-BISHOP;1FA60:0XIANGQI RED GENERAL
    2MANDARIN;2ELEPHANT;2HORSE;2CHARIOT;2CANNON;2SOLDIER;1y GENERAL;2MANDARIN;2ELEPHANT;2HORSE
    2CHARIOT;2CANNON;2SOLDIER;1FA70:0BALLET SHOES;0ONE-PIECE SWIMSUIT;0BRIEFS;0SHORTS;0THONG SANDAL
    1FA78:0DROP OF BLOOD;0ADHESIVE BANDAGE;0STETHOSCOPE;0X-RAY;0CRUTCH;1FA80:0YO-YO;0KITE
    0PARACHUTE;0BOOMERANG;0MAGIC WAND;0PINATA;0NESTING DOLLS;1FA90:0RINGED PLANET;0CHAIR;0RAZOR
    0AXE;0DIYA LAMP;0BANJO;0MILITARY HELMET;0ACCORDION;0ej DRUM;0COIN;0CARPENTRY SAW;0SCREWDRIVER
    0LADDER;0av;0MIRROR;0WINDOW;0PLUNGER;0SEWING NEEDLE;0KNOT;0BUCKET;0MOUSE TRAP;0TOOTHBRUSH
    0HEADSTONE;0PLACARD;0ROCK;0MIRROR BALL;0IDENTIFICATION CARD;0ho BATTERY;0HAMSA;1FAB0:0FLY;0WORM
    0BEETLE;0COCKROACH;0POTTED PLANT;0WOOD;0FEATHER;0LOTUS;0CORAL;0EMPTY NEST;0NEST b EGGS
    1FAC0:0ANATOMICAL ik;0LUNGS;0PEOPLE HUGGING;0PREGNANT MAN;1lb;0lb b CROWN;1FAD0:0BLUEBERRIES
    0BELL PEPPER;0OLIVE;0FLATBREAD;0TAMALE;0FONDUE;0TEAPOT;0POURING LIQUID;0BEANS;0JAR
    1FAE0:0MELTING cs;0SALUTING cs;0cs b eg EYES p lc cv ld;2PEEKING EYE;2cm ld;0ez ey cs
    0BITING LIP;0BUBBLES;1FAF0:0lc b bi FINGER p ct la;0k lc;0r lc;0PALM ce lc;1UP lc
    0bi bb AT THE VIEWER;0ik HANDS;1FB00:0du SEXTANT-1;1SEXTANT-2;1SEXTANT-12;1SEXTANT-3
    1SEXTANT-13;1SEXTANT-23;1SEXTANT-123;1SEXTANT-4;1SEXTANT-14;1SEXTANT-24;1SEXTANT-124
    1SEXTANT-34;1SEXTANT-134;1SEXTANT-234;1SEXTANT-1234;1SEXTANT-5;1SEXTANT-15;1SEXTANT-25
    1SEXTANT-125;1SEXTANT-35;1SEXTANT-235;1SEXTANT-1235;1SEXTANT-45;1SEXTANT-145;1SEXTANT-245
    1SEXTANT-1245;1SEXTANT-345;1SEXTANT-1345;1SEXTANT-2345;1SEXTANT-12345;1SEXTANT-6;1SEXTANT-16
    1SEXTANT-26;1SEXTANT-126;1SEXTANT-36;1SEXTANT-136;1SEXTANT-236;1SEXTANT-1236;1SEXTANT-46
    1SEXTANT-146;1SEXTANT-1246;1SEXTANT-346;1SEXTANT-1346;1SEXTANT-2346;1SEXTANT-12346;1SEXTANT-56
    1SEXTANT-156;1SEXTANT-256;1SEXTANT-1256;1SEXTANT-356;1SEXTANT-1356;1SEXTANT-2356;1SEXTANT-12356
    1SEXTANT-456;1SEXTANT-1456;1SEXTANT-2456;1SEXTANT-12456;1SEXTANT-3456;1SEXTANT-13456
    1SEXTANT-23456;0bt o du cm bt ad o TO bt da;9h;4cr ad o TO bt da;9h;5o TO bt da
    1h du cm cr ad o TO cr da;9h;4bt ad o TO cr da;9h;5o TO cr da;5ad o TO cr ad h;5da TO bt ad h
    5o TO bt ad h;5da TO cr ad h;5o TO cr ad h;5da TO cr h;1o du cm cr da TO cr ad h;5o TO cr ad h
    5da TO bt ad h;5o TO bt ad h;5da TO bt h;5ad o TO bt ad h;0cr h du cm bt ad o TO bt da;9h
    4cr ad o TO bt da;9h;5o TO bt da;1o du cm cr ad o TO cr da;9h;4bt ad o TO cr da;9h;5o TO cr da
    5ad o TO cr ad h;5da TO bt ad h;5o TO bt ad h;5da TO cr ad h;5o TO cr ad h;5da TO cr h
    1h du cm cr da TO cr ad h;5o TO cr ad h;5da TO bt ad h;5o TO bt ad h;5da TO bt h
    5ad o TO bt ad h;1p h p bt ee t ig du;0o p bt p h ee t ig du;0cr p o p bt ee t ig du
    0o p cr p h ee t ig du;1ee br ek du;0cr ee br ek du;0h ee br ek du;0bt ee br ek du
    0q br hd BLOCK-2>6;0x br hd BLOCK-2>6;0o p bt br hd du;2cr br hd du;0h p cr br hd du
    2bt br hd du;0cr p bt br hd du;0x br hd BLOCK-1358;0cr br ek du;1t js du;1ay js du;1t ig du
    1au js du;0h br ek du;1t js du;1ay js du;1t ig du;1au js du;0o cd bd SHADE;0h cd bd SHADE
    0cr cd bd SHADE;0bt cd bd SHADE;0INVERSE bd SHADE;0cr cd du p bt cd INVERSE bd SHADE
    2INVERSE bd SHADE p bt cd du;1FB94:0o cd INVERSE bd SHADE p h cd du;0CHECKER BOARD FILL
    0INVERSE CHECKER BOARD FILL;0al x FILL;0cr o TO bt h FILL;1h TO bt o FILL;1p bt ee cd du
    0o p h ee cd du;0cr o ee bd SHADE;1h ee bd SHADE;0bt h ee bd SHADE;1o ee bd SHADE
    0BOX DRAWINGS bn cm cr da TO ad o;8h;4ad o TO bt da;5h TO bt da;4cr da TO ad o TO bt da
    8h TO bt da;4ad o TO bt da TO ad h;7cr da TO ad h;4cr da TO ad o p ad h TO bt da
    8h p ad o TO bt da;9TO bt da TO ad o;8o TO bt da TO ad h;4ad o TO cr da TO ad h TO bt da
    5h TO cr da TO ad o TO bt da;4dk;3x b q v;0ARROWHEAD-SHAPED POINTER;0INVERSE CHECK ai
    0o cd RUNNING MAN;0h cd RUNNING MAN;0INVERSE aa f b TIP r;0r f p cr p bt br hd du
    0k f p cr p bt br hd du;0aa f p h br hd du;0ap f p h br hd du;0o cd FOLDER;0h cd FOLDER
    0VOIDED jg fr;0h eg eb bx;0hx cm fr;2ad h TO bt da;2dk;0z al SALTIRE b ROUNDED CORNERS
    0o THIRD z h bb bi;0ad THIRD z h bb bi;0h THIRD z h bb bi;0hx eb ec ai;0STICK FIGURE;2b ARMS hh
    2LEANING o;3h;2b DRESS;0z gf CHEVRON;1FBF0:0SEGMENTED bs dt;2br;2bj;2t;2at;2ay;2eu;2au;2ar;2cj
    2F800:0CJK COMPATIBILITY IDEOGRAPH-2F800#542;E0001:0LANGUAGE TAG;E0020:0TAG kj;1cy ai;1dh ai
    1cq g;1DOLLAR g;1PERCENT g;1AMPERSAND;1kd;1o be;1h be;1ch;1by g;1dq;1HYPHEN-MINUS;1hf fb;1gh
    1bs dt;2br;2bj;2t;2at;2ay;2eu;2au;2ar;2cj;1hp;1iz;1aw g;1fm g;1aj g;1ec ai;1COMMERCIAL AT
    1eo c a A;4B;4C;4D;4E;4F;4G;4H;4I;4J;4K;4L;4M;4N;4O;4P;4Q;4R;4S;4T;4U;4V;4W;4X;4Y;4Z;1o an ae
    1gx gh;1h an ae;1af ev;1ho ey;1df ev;1eo d a A;4B;4C;4D;4E;4F;4G;4H;4I;4J;4K;4L;4M;4N;4O;4P;4Q
    4R;4S;4T;4U;4V;4W;4X;4Y;4Z;1o jc ae;1q ey;1h jc ae;1bq;0CANCEL TAG
    E0100:0VARIATION SELECTOR-17>240"

end Laminar.Text
