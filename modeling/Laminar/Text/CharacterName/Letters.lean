/-!
# Names of characters: letters

The names of letters and marks, U+0000 to U+1FFF (Unicode 14).  `CharacterName` says how
the table is read.
-/

namespace Laminar.Text

/-- Names of letters and marks, U+0000 to U+1FFF. -/
def letterNames : String :=
  "20:0kj;0cy ai;0dh ai;0cq g;0DOLLAR g;0PERCENT g;0AMPERSAND;0kd;0o be;0h be;0ch;0by g;0dq
    0HYPHEN-MINUS;0hf fb;0gh;0bs dt;1br;1bj;1t;1at;1ay;1eu;1au;1ar;1cj;0hp;0iz;0aw g;0fm g;0aj g
    0ec ai;0COMMERCIAL AT;0eo c a A;3B;3C;3D;3E;3F;3G;3H;3I;3J;3K;3L;3M;3N;3O;3P;3Q;3R;3S;3T;3U;3V
    3W;3X;3Y;3Z;0o an ae;0gx gh;0h an ae;0af ev;0ho ey;0df ev;0eo d a A;3B;3C;3D;3E;3F;3G;3H;3I;3J
    3K;3L;3M;3N;3O;3P;3Q;3R;3S;3T;3U;3V;3W;3X;3Y;3Z;0o jc ae;0q ey;0h jc ae;0bq;A0:0NO-BREAK kj
    0ba cy ai;0CENT g;0POUND g;0CURRENCY g;0YEN g;0BROKEN fc;0gi g;0ak;0COPYRIGHT g
    0FEMININE ORDINAL INDICATOR;0de l ep dh ai;0li g;0SOFT HYPHEN;0REGISTERED g;0cp;0DEGREE g
    0PLUS-MINUS g;0gp bj;1t;0cb ev;0MICRO g;0PILCROW g;0ad bx;0fh;0gp br
    0MASCULINE ORDINAL INDICATOR;0cc l ep dh ai;0VULGAR gq br ek;3cd;2t ig;0ba ec ai;0eo c a A b df
    5cb;5af;5bq;5ak;5di i;3AE;3C b fh;3E b df;5cb;5af;5ak;3I b df;5cb;5af;5ak;3ETH;3N b bq;3O b df
    5cb;5af;5bq;5ak;0gd g;0eo c a O b v;3U b df;5cb;5af;5ak;3Y b cb;3THORN;1d a SHARP S;3A b df;5cb
    5af;5bq;5ak;5di i;3AE;3C b fh;3E b df;5cb;5af;5ak;3I b df;5cb;5af;5ak;3ETH;3N b bq;3O b df;5cb
    5af;5bq;5ak;0DIVISION g;0eo d a O b v;3U b df;5cb;5af;5ak;3Y b cb;3THORN;3Y b ak;1c a A b cp
    1d a A b cp;1c a A b ed;1d a A b ed;1c a A b lm;1d a A b lm;1c a C b cb;1d a C b cb;1c a C b af
    1d a C b af;1c a C b bx i;1d a C b bx i;1c a C b ft;1d a C b ft;1c a D b ft;1d a D b ft
    1c a D b v;1d a D b v;1c a E b cp;1d a E b cp;1c a E b ed;1d a E b ed;1c a E b bx i
    1d a E b bx i;1c a E b lm;1d a E b lm;1c a E b ft;1d a E b ft;1c a G b af;1d a G b af
    1c a G b ed;1d a G b ed;1c a G b bx i;1d a G b bx i;1c a G b fh;1d a G b fh;1c a H b af
    1d a H b af;1c a H b v;1d a H b v;1c a I b bq;1d a I b bq;1c a I b cp;1d a I b cp;1c a I b ed
    1d a I b ed;1c a I b lm;1d a I b lm;1c a I b bx i;1d a ka I;1c dl IJ;1d dl IJ;1c a J b af
    1d a J b af;1c a K b fh;1d a K b fh;3KRA;1c a L b cb;1d a L b cb;1c a L b fh;1d a L b fh
    1c a L b ft;1d a L b ft;1c a L b ad bx;1d a L b ad bx;1c a L b v;1d a L b v;1c a N b cb
    1d a N b cb;1c a N b fh;1d a N b fh;1c a N b ft;1d a N b ft;4PRECEDED BY kd;1c a ENG;1d a ENG
    1c a O b cp;1d a O b cp;1c a O b ed;1d a O b ed;1c a O b l cb;1d a O b l cb;1c dl OE;1d dl OE
    1c a R b cb;1d a R b cb;1c a R b fh;1d a R b fh;1c a R b ft;1d a R b ft;1c a S b cb;1d a S b cb
    1c a S b af;1d a S b af;1c a S b fh;1d a S b fh;1c a S b ft;1d a S b ft;1c a T b fh;1d a T b fh
    1c a T b ft;1d a T b ft;1c a T b v;1d a T b v;1c a U b bq;1d a U b bq;1c a U b cp;1d a U b cp
    1c a U b ed;1d a U b ed;1c a U b di i;1d a U b di i;1c a U b l cb;1d a U b l cb;1c a U b lm
    1d a U b lm;1c a W b af;1d a W b af;1c a Y b af;1d a Y b af;1c a Y b ak;3Z b cb;1d a Z b cb
    1c a Z b bx i;1d a Z b bx i;1c a Z b ft;1d a Z b ft;3ej S;3B b v;1c a B b av;5TOPBAR
    1d a B b TOPBAR;1c a ef eu;1d a ef eu;1c a eg O;3C b av;1d a C b av;1c a AFRICAN D;3D b av
    5TOPBAR;1d a D b TOPBAR;3bg ll;1c a aq E;3SCHWA;3eg E;3F b av;1d a F b av;1c a G b av;3kk
    1d a HV;1c a kp;3I b v;3K b av;1d a K b av;3L b fc;3LAMBDA b v;1c a bg M;3N b o av
    1d a N b ej h LEG;1c a O b ad bq;5jw;1d a O b jw;1c a OI;1d a OI;1c a P b av;1d a P b av;1a YR
    1c a ef bj;1d a ef bj;1c a ESH;1a aq ESH LOOP;1d a T b fi av;1c a T b av;1d a T b av
    1c a T b ca av;3U b jw;1d a U b jw;1c a fo;3V b av;3Y b av;1d a Y b av;1c a Z b v;1d a Z b v
    1c a EZH;4aq;1d a EZH aq;4b gr;1a bj b v;1c a ef ay;1d a ef ay;1a ba fp fb b v;2WYNN
    2DENTAL CLICK;2LATERAL CLICK;2ALVEOLAR CLICK;2ca CLICK;1c a DZ b ft;3D b d a Z b ft
    1d a DZ b ft;1c a LJ;3L b d a J;1d a LJ;1c a NJ;3N b d a J;1d a NJ;1c a A b ft;1d a A b ft
    1c a I b ft;1d a I b ft;1c a O b ft;1d a O b ft;1c a U b ft;1d a U b ft;1c a U b ak p cp
    1d a U b ak p cp;1c a U b ak p cb;1d a U b ak p cb;1c a U b ak p ft;1d a U b ak p ft
    1c a U b ak p df;1d a U b ak p df;3bg E;1c a A b ak p cp;1d a A b ak p cp;1c a A b bx i p cp
    1d a A b bx i p cp;1c a AE b cp;1d a AE b cp;1c a G b v;1d a G b v;1c a G b ft;1d a G b ft
    1c a K b ft;1d a K b ft;1c a O b lm;1d a O b lm;1c a O b lm p cp;1d a O b lm p cp;1c a EZH b ft
    1d a EZH b ft;3J b ft;1c a DZ;3D b d a Z;1d a DZ;1c a G b cb;1d a G b cb;1c a HWAIR;3WYNN
    3N b df;1d a N b df;1c a A b di i p cb;1d a A b di i p cb;1c a AE b cb;1d a AE b cb
    1c a O b v p cb;1d a O b v p cb;1c a A b l df;1d a A b l df;1c a A b ba ed;1d a A b ba ed
    1c a E b l df;1d a E b l df;1c a E b ba ed;1d a E b ba ed;1c a I b l df;1d a I b l df
    1c a I b ba ed;1d a I b ba ed;1c a O b l df;1d a O b l df;1c a O b ba ed;1d a O b ba ed
    1c a R b l df;1d a R b l df;1c a R b ba ed;1d a R b ba ed;1c a U b l df;1d a U b l df
    1c a U b ba ed;1d a U b ba ed;1c a S b dq m;1d a S b dq m;1c a T b dq m;1d a T b dq m;1c a YOGH
    1d a YOGH;1c a H b ft;1d a H b ft;1c a N b ej h LEG;1d a D b CURL;1c a OU;1d a OU;1c a Z b av
    1d a Z b av;1c a A b bx i;1d a A b bx i;1c a E b fh;1d a E b fh;1c a O b ak p cp
    1d a O b ak p cp;1c a O b bq p cp;1d a O b bq p cp;1c a O b bx i;1d a O b bx i
    1c a O b bx i p cp;1d a O b bx i p cp;1c a Y b cp;1d a Y b cp;3L b CURL;3N b CURL;3T b CURL
    3ka J;3DB fq;3QP fq;1c a A b v;3C b v;1d a C b v;1c a L b fc;3T b cm v;1d a S b SWASH gr
    3Z b SWASH gr;1c a fp fb;1d a fp fb;1c a B b v;3U fc;3bg V;3E b v;1d a E b v;1c a J b v
    1d a J b v;1c a d Q b av gr;1d a Q b av gr;1c a R b v;1d a R b v;1c a Y b v;1d a Y b v;3bg A
    3hj;3bg hj;3B b av;3eg O;3C b CURL;3D b gr;5av;3aq E;3SCHWA;4b av;3eg E;3aq eg E;6b av
    3fn aq eg E;3ka J b v;3G b av;3hk G;1a d c G;1d a kk;3RAMS jw;3bg H;3H b av;3HENG b av;3I b v
    3kp;1a d c I;1d a L b ad bq;5BELT;5ca av;3LEZH;3bg M;5b ej LEG;3M b av;3N b o av;5ca av
    1a d c N;1d a BARRED O;1a d c OE;1d a fn gm;3PHI;3bg R;5b ej LEG;6av;3R b ej LEG;5gr;5FISHHOOK
    3aq R b FISHHOOK;1a d c R;4ba R;1d a S b av;3ESH;3ka J b v p av;3SQUAT aq ESH;3ESH b CURL;3bg T
    3T b ca av;3U fc;3fo;3V b av;3bg V;4W;4Y;1a d c Y;1d a Z b ca av;5CURL;3EZH;4b CURL;1a fp fb
    2PHARYNGEAL VOICED FRICATIVE;2ba fp fb;2STRETCHED C;2BILABIAL CLICK;2d c B;1d a fn eg E
    1a d c G b av;4H;1d a J b iq;3bg K;1a d c L;1d a Q b av;1a fp fb b v;2aq fp fb b v;1d a DZ fq
    3DEZH fq;3DZ fq b CURL;3TS fq;3TESH fq;3TC fq b CURL;3FENG fq;3LS fq;3LZ fq
    1a BILABIAL PERCUSSIVE;2BIDENTAL PERCUSSIVE;1d a bg H b FISHHOOK;7p gr;0dy a d H;4b av;3J;3R
    3bg R;5b av;3c ba R;3W;3Y;2PRIME;2l PRIME;2bg dq;2kd;2aq dq;2h cd di;2o cd di;2fp fb;2aq fp fb
    2o am;2h am;2UP am;2ce am;2af ev;0ft;0dy a q ey;2cp;2cb ev;2df ev;2ho q ey;3cp;3df ev;3cb ev
    2ee hp;2cd ee hp;2CENTRED h cd di;3o cd di;2UP jx;2ce jx;2by g;2MINUS g;0ed;0bx i;0di i;0lm
    0d bq;0l cb ev;0dy a RHOTIC av;2fr ev;2d kk;3L;3S;3X;3aq fp fb;2EXTRA-HIGH ef fc;2ew ef fc
    2MID ef fc;2ho ef fc;2EXTRA-LOW ef fc;2YIN DEPARTING ef ai;2YANG DEPARTING ef ai;2VOICING
    2UNASPIRATED;2l kd;2ho ce am;3UP am;3o am;3h am;3di;2ad df ev;3l df ev;4cb ev;2ho bq;2hh hp
    2BEGIN ew ef;2END ew ef;2BEGIN ho ef;2END ho ef;2SHELF;2eg SHELF;2ho o f;0ck df ev;1cb ev
    1af ev;1bq;1cp;1OVERLINE;1ed;1bx i;1ak;1av i;1di i;1l cb ev;1ft;1q ey i;1l q ey i;2df ev;1ci
    1ba ed;1bg dq i;1dq i;1aq dq i;1dq i h;1df ev m;1cb ev m;1o jx m;1h jx m;1o ep i;1jw;1o cd di m
    1UP jx m;1ce jx m;1by g m;1MINUS g m;1PALATALIZED av m;1ca av m;1bx m;1ak m;1di m;1dq m;1fh;1lm
    1q ey m;1BRIDGE m;1ba l ARCH m;1ft m;1af ev m;1ed m;1ba ed m;1bq m;1cp m;1ho ey;1l ho ey;1bq gn
    1es v gn;1ej v gn;1es gh gn;1ej gh gn;1h cd di m;1ba BRIDGE m;1an m;1SEAGULL m;1X i;1q bq
    1l OVERLINE;1df ef ai;1cb ef ai;1jg az;2KORONIS;2hr TONOS;2ax;1BRIDGE i;1fm g m;1l q ey m
    1o ep m;1li bq i;1HOMOTHETIC i;1kq bk TO i;1o h f m;1ap f m;1GRAPHEME JOINER;1h am i;1o cd di i
    1FERMATA;1X m;1o am m;1h am m;3p UP am m;2cd di i;1bx i h;1ch m;1l di m;1ZIGZAG i;1l ed m;2ed
    2cp;3m;2bq;2ba ed;2k f m;1eo d a A;4E;4I;4O;4U;4C;4D;4H;4M;4R;4T;4V;4X;0jg c a HETA;1d a HETA
    1c a hs SAMPI;1d a hs SAMPI;1NUMERAL g;1bt NUMERAL g;1c a PAMPHYLIAN DIGAMMA
    1d a PAMPHYLIAN DIGAMMA;37A:1ax;1d aq LUNATE jd w;2ez LUNATE jd w;2aq ez LUNATE jd w;1ec ai
    1c a YOT;384:1TONOS;1hr TONOS;1c a hj b TONOS;1ANO TELEIA;1c a fx b TONOS;3ETA b TONOS
    3kp b TONOS;38C:3id b TONOS;38E:3fo b TONOS;3gm b TONOS;1d a kp b hr p TONOS;1c a hj;3BETA;3kk
    3ll;3fx;3ZETA;3ETA;3jh;3kp;3KAPPA;3LAMDA;3MU;3NU;3XI;3id;3PI;3RHO;3A3:3jd;3TAU;3fo;3PHI;3CHI
    3PSI;3gm;3kp b hr;3fo b hr;1d a hj b TONOS;3fx b TONOS;3ETA b TONOS;3kp b TONOS
    3fo b hr p TONOS;3hj;3BETA;3kk;3ll;3fx;3ZETA;3ETA;3jh;3kp;3KAPPA;3LAMDA;3MU;3NU;3XI;3id;3PI
    3RHO;3n jd;3jd;3TAU;3fo;3PHI;3CHI;3PSI;3gm;3kp b hr;3fo b hr;3id b TONOS;3fo b TONOS
    3gm b TONOS;1c KAI w;1BETA w;1jh w;1fo b av w;3cb p av w;3ak p av w;1PHI w;1PI w;1KAI w
    1a hs KOPPA;1d a hs KOPPA;1a STIGMA;1d a STIGMA;1a DIGAMMA;1d a DIGAMMA;1a KOPPA;1d a KOPPA
    1a SAMPI;1d a SAMPI;0hl c a SHEI;1d a SHEI;1c a FEI;1d a FEI;1c a KHEI;1d a KHEI;1c a HORI
    1d a HORI;1c a GANGIA;1d a GANGIA;1c a SHIMA;1d a SHIMA;1c a DEI;1d a DEI;0jg KAPPA w;1RHO w
    1LUNATE jd w;1a YOT;1c jh w;1LUNATE fx w;1aq LUNATE fx w;1c a SHO;1d a SHO;1c LUNATE jd w
    2a SAN;1d a SAN;1RHO b v w;1c aq LUNATE jd w;2ez LUNATE jd w;2aq ez LUNATE jd w;0iv c a IE b df
    3IO;3DJE;3GJE;3UKRAINIAN IE;3DZE;3BYELORUSSIAN-UKRAINIAN I;3YI;3JE;3LJE;3NJE;3TSHE;3KJE;3I b df
    3es U;3DZHE;3A;3BE;3VE;3GHE;3DE;3IE;3ZHE;3ZE;3I;3es I;3KA;3EL;3EM;3EN;3O;3PE;3ER;3ES;3TE;3U;3EF
    3HA;3TSE;3CHE;3jf;3SHCHA;3HARD g;3YERU;3SOFT g;3E;3YU;3YA;1d a A;3BE;3VE;3GHE;3DE;3IE;3ZHE;3ZE
    3I;3es I;3KA;3EL;3EM;3EN;3O;3PE;3ER;3ES;3TE;3U;3EF;3HA;3TSE;3CHE;3jf;3SHCHA;3HARD g;3YERU
    3SOFT g;3E;3YU;3YA;3IE b df;3IO;3DJE;3GJE;3UKRAINIAN IE;3DZE;3BYELORUSSIAN-UKRAINIAN I;3YI;3JE
    3LJE;3NJE;3TSHE;3KJE;3I b df;3es U;3DZHE;1c a gm;1d a gm;1c a YAT;1d a YAT;1c a ht E;1d a ht E
    1c a cz YUS;1d a cz YUS;1c a ht cz YUS;1d a ht cz YUS;1c a BIG YUS;1d a BIG YUS;1c a ht BIG YUS
    1d a ht BIG YUS;1c a KSI;1d a KSI;1c a PSI;1d a PSI;1c a FITA;1d a FITA;1c a IZHITSA
    1d a IZHITSA;1c a IZHITSA b l df ev;1d a IZHITSA b l df ev;1c a UK;1d a UK;1c a ROUND gm
    1d a ROUND gm;1c a gm b TITLO;1d a gm b TITLO;1c a OT;1d a OT;1c a KOPPA;1d a KOPPA
    1THOUSANDS g;0ck iv TITLO;2PALATALIZATION;2cw PNEUMATA;2cx PNEUMATA;2POKRYTIE;2ab THOUSANDS g
    2MILLIONS g;0iv c a es I b gr;1d a es I b gr;1c a SEMISOFT g;1d a SEMISOFT g;1c a ER b TICK
    1d a ER b TICK;1c a GHE b UPTURN;1d a GHE b UPTURN;1c a GHE b v;1d a GHE b v;1c a GHE b ad av
    1d a GHE b ad av;1c a ZHE b cg;1d a ZHE b cg;1c a ZE b cg;1d a ZE b cg;1c a KA b cg
    1d a KA b cg;1c a KA b q v;1d a KA b q v;1c a KA b v;1d a KA b v;1c a BASHKIR KA
    1d a BASHKIR KA;1c a EN b cg;1d a EN b cg;1c dl EN GHE;1d dl EN GHE;1c a PE b ad av
    1d a PE b ad av;1c a ABKHASIAN HA;1d a ABKHASIAN HA;1c a ES b cg;1d a ES b cg;1c a TE b cg
    1d a TE b cg;1c a fk U;1d a fk U;1c a fk U b v;1d a fk U b v;1c a HA b cg;1d a HA b cg
    1c dl TE TSE;1d dl TE TSE;1c a CHE b cg;1d a CHE b cg;1c a CHE b q v;1d a CHE b q v;1c a SHHA
    1d a SHHA;1c a ABKHASIAN CHE;1d a ABKHASIAN CHE;1c a ABKHASIAN CHE b cg;1d a ABKHASIAN CHE b cg
    1a PALOCHKA;1c a ZHE b ed;1d a ZHE b ed;1c a KA b av;1d a KA b av;1c a EL b gr;1d a EL b gr
    1c a EN b av;1d a EN b av;1c a EN b gr;1d a EN b gr;1c a KHAKASSIAN CHE;1d a KHAKASSIAN CHE
    1c a EM b gr;1d a EM b gr;3PALOCHKA;1c a A b ed;1d a A b ed;1c a A b ak;1d a A b ak;1c dl A IE
    1d dl A IE;1c a IE b ed;1d a IE b ed;1c a SCHWA;1d a SCHWA;1c a SCHWA b ak;1d a SCHWA b ak
    1c a ZHE b ak;1d a ZHE b ak;1c a ZE b ak;1d a ZE b ak;1c a ABKHASIAN DZE;1d a ABKHASIAN DZE
    1c a I b cp;1d a I b cp;1c a I b ak;1d a I b ak;1c a O b ak;1d a O b ak;1c a BARRED O
    1d a BARRED O;1c a BARRED O b ak;1d a BARRED O b ak;1c a E b ak;1d a E b ak;1c a U b cp
    1d a U b cp;1c a U b ak;1d a U b ak;1c a U b l cb;1d a U b l cb;1c a CHE b ak;1d a CHE b ak
    1c a GHE b cg;1d a GHE b cg;1c a YERU b ak;1d a YERU b ak;1c a GHE b v p av;1d a GHE b v p av
    1c a HA b av;1d a HA b av;1c a HA b v;1d a HA b v;1c a KOMI DE;1d a KOMI DE;1c a KOMI DJE
    1d a KOMI DJE;1c a KOMI ZJE;1d a KOMI ZJE;1c a KOMI DZJE;1d a KOMI DZJE;1c a KOMI LJE
    1d a KOMI LJE;1c a KOMI NJE;1d a KOMI NJE;1c a KOMI SJE;1d a KOMI SJE;1c a KOMI TJE
    1d a KOMI TJE;1c a aq ZE;1d a aq ZE;1c a EL b av;1d a EL b av;1c a LHA;1d a LHA;1c a RHA
    1d a RHA;1c a YAE;1d a YAE;1c a QA;1d a QA;1c a WE;1d a WE;1c a ALEUT KA;1d a ALEUT KA
    1c a EL b ad av;1d a EL b ad av;1c a EN b ad av;1d a EN b ad av;1c a PE b cg;1d a PE b cg
    1c a SHHA b cg;1d a SHHA b cg;1c a EN b o av;1d a EN b o av;1c a DZZHE;1d a DZZHE;1c a DCHE
    1d a DCHE;1c a EL b cg;1d a EL b cg;531:0ARMENIAN c a AYB;3BEN;3GIM;3DA;3ECH;3ZA;3EH;3ET;3TO
    3ZHE;3INI;3LIWN;3XEH;3CA;3KEN;3HO;3JA;3GHAD;3CHEH;3MEN;3YI;3NOW;3jf;3VO;3jy;3PEH;3JHEH;3RA;3SEH
    3VEW;3TIWN;3REH;3CO;3YIWN;3PIWR;3KEH;3OH;3FEH;559:1dy a o cd di;1kd;1EMPHASIS ai;1cy ai;1dq
    1ec ai;1dz ai;1d a bg AYB;3AYB;3BEN;3GIM;3DA;3ECH;3ZA;3EH;3ET;3TO;3ZHE;3INI;3LIWN;3XEH;3CA;3KEN
    3HO;3JA;3GHAD;3CHEH;3MEN;3YI;3NOW;3jf;3VO;3jy;3PEH;3JHEH;3RA;3SEH;3VEW;3TIWN;3REH;3CO;3YIWN
    3PIWR;3KEH;3OH;3FEH;2dl ECH YIWN;2a YI b v;1hf fb;1HYPHEN;58D:0RIGHT-FACING ARMENIAN ETERNITY g
    0LEFT-FACING ARMENIAN ETERNITY g;0ARMENIAN DRAM g;591:0HEBREW ev ETNAHTA;2SEGOL;2SHALSHELET
    2ZAQEF QATAN;3GADOL;2TIPEHA;2REVIA;2ZARQA;2PASHTA;2YETIV;2TEVIR;2GERESH;3MUQDAM;2GERSHAYIM
    2QARNEY PARA;2TELISHA GEDOLA;2PAZER;2ATNAH HAFUKH;2MUNAH;2MAHAPAKH;2MERKHA;3KEFULA;2DARGA
    2QADMA;2TELISHA QETANA;2YERAH BEN YOMO;2OLE;2ILUY;2DEHI;2ZINOR;1ai MASORA ao;1POINT SHEVA
    2HATAF SEGOL;3PATAH;3QAMATS;2HIRIQ;2TSERE;2SEGOL;2PATAH;2QAMATS;2HOLAM;3HASER FOR VAV;2QUBUTS
    2hy OR MAPIQ;2METEG;1bc MAQAF;1POINT RAFE;1bc PASEQ;1POINT lj bx;2SIN bx;1bc SOF PASUQ
    1ai cr bx;2bt bx;1bc NUN HAFUKHA;1POINT QAMATS QATAN;5D0:1a db;2BET;2GIMEL;2DALET;2HE;2VAV
    2ZAYIN;2HET;2TET;2YOD;2n KAF;2KAF;2LAMED;2n MEM;2MEM;2n NUN;2NUN;2kr;2AYIN;2n PE;2PE;2n TSADI
    2TSADI;2QOF;2RESH;2lj;2TAV;5EF:1YOD ah;1dl YIDDISH l VAV;3VAV YOD;3l YOD;1bc GERESH;2GERSHAYIM
    600:0ji cq g;1g SANAH;1FOOTNOTE MARKER;1g SAFHA;2SAMVAT;1cq ai i;0hu CUBE ROOT;1FOURTH ROOT
    0ji RAY;0hu PER MILLE g;2io ac g;0AFGHANI g;0ji dq;1DATE dc;1POETIC VERSE g;1g MISRA
    2SALLALLAHOU ALAYHE WASSALLAM;2ALAYHE ASSALLAM;2RAHMATULLAH ALAYHE;2RADI ALLAHOU ANHU
    2TAKHALLUS;1d ew TAH;3dl db b LAM b ge;3ZAIN;2FATHA;2DAMMA;2KASRA;1iz;1a ai;1END OF TEXT ai
    1dr bx bc ai;1ec ai;1a KASHMIRI ge;2gy;2db b MADDA i;4gy i;2WAW b gy i;2db b gy m;2ge b gy i
    2db;2BEH;2TEH MARBUTA;2TEH;2THEH;2ei;2hv;2gv;2DAL;2THAL;2REH;2ZAIN;2SEEN;2SHEEN;2SAD;2DAD;2TAH
    2ZAH;2AIN;2GHAIN;2KEHEH b bj cu i;4t cu m;2FARSI ge b ba V;5bj cu i;5t cu i;1TATWEEL;1a FEH
    2QAF;2KAF;2LAM;2bu;2jb;2HEH;2WAW;2db bl;2ge;1FATHATAN;1DAMMATAN;1KASRATAN;1FATHA;1DAMMA;1KASRA
    1SHADDA;1SUKUN;1MADDAH i;1gy i;2m;1SUBSCRIPT db;1ba DAMMA;1ai jb GHUNNA;1ZWARAKAY;1bm g d V i
    3ba d V i;3bx m;1aq DAMMA;1FATHA b bj cu;1WAVY gy m;0hu bs dt;2br;2bj;2t;2at;2ay;2eu;2au;2ar
    2cj;0ji PERCENT g;1DECIMAL dc;1THOUSANDS dc;1ay ea gg;1a ka BEH;3QAF;2gp db;2db WASLA
    3b WAVY gy i;6m;2ew gy;4db;4WAW;2U b gy i;2ew gy ge;2TTEH;2TTEHEH;2BEEH;2TEH b di;4t cu i aa
    2PEH;2TEHEH;2BEHEH;2hv b gy i;4bj cu q i;2NYEH;2DYEH;2hv b t cu i;2TCHEH;2TCHEHEH;2DDAL
    2DAL b di;4bx m;6p d TAH;2DAHAL;2DDAHAL;2DUL;2DAL b t cu i aa;4at cu i;2RREH;2REH b d V;4di
    4bx m;4d V m;4bx m p bx i;4bj cu i;2JEH;2REH b at cu i;2SEEN b bx m p bx i;4t cu m;7p t cu i
    2SAD b bj cu m;4t cu i;2TAH b t cu i;2AIN b t cu i;2ka FEH;2FEH b bx MOVED m;5m;2VEH
    2FEH b t cu m;2PEHEH;2QAF b bx i;4t cu i;2KEHEH;2SWASH KAF;2KAF b di;4bx i;2NG;2KAF b t cu m
    2GAF;3b di;2NGOEH;2GAF b bj cu m;2GUEH;2GAF b t cu i;2LAM b d V;4bx i;4t cu i;6m;2jb b bx m
    3GHUNNA;2RNOON;2jb b di;4t cu i;2HEH DOACHASHMEE;2TCHEH b bx i;2HEH b ge i;3GOAL;4b gy i
    2TEH MARBUTA GOAL;2WAW b di;2KIRGHIZ OE;2OE;2U;2YU;2KIRGHIZ YU;2WAW b bj cu i;2VE;2FARSI ge
    2ge b gr;4d V;2WAW b bx i;2E;2ge b t cu m;3BARREE;4b gy i;1hf fb;1a AE
    1d ew dl SAD b LAM b db bl;4QAF b LAM b db bl;3bu s e;3LAM db;3ei;3t cu;3SEEN;1END OF AYAH
    1START OF RUB EL HIZB;1d ew ROUNDED dt;3UPRIGHT RECTANGULAR dt;3ka HEAD OF gv;3bu j e;2ho SEEN
    2ew MADDA;2WAW;2ge;2ew ge;3jb;1PLACE OF SAJDAH;1EMPTY da ho fb;3ew fb
    1ROUNDED ew fb b FILLED da;1d ho bu;1a DAL b ba V;2REH b ba V;0EXTENDED hu bs dt;3br;3bj;3t;3at
    3ay;3eu;3au;3ar;3cj;0ji a SHEEN b bx m;2DAD b bx m;2GHAIN b bx m;1g SINDHI AMPERSAND
    3POSTPOSITION MEN;1a HEH b ba V;0SYRIAC END OF PARAGRAPH;1SUPRALINEAR hf fb;1SUBLINEAR hf fb
    1SUPRALINEAR hp;1SUBLINEAR hp;1x hp;1hp SKEWED o;3h;1SUPRALINEAR hp SKEWED o
    1SUBLINEAR hp SKEWED h;1CONTRACTION;1HARKLEAN OBELUS;2METOBELUS;2ASTERISCUS;70F:1dz ai;1a ALAPH
    2gp ALAPH;2BETH;2GAMAL;3GARSHUNI;2DALATH;2ka DALATH RISH;2HE;2WAW;2ZAIN;2HETH;2TETH;3GARSHUNI
    2YUDH;3HE;2KAPH;2LAMADH;2MIM;2NUN;2SEMKATH;2n SEMKATH;2E;2PE;2aq PE;2SADHE;2QAPH;2RISH;2lj;2TAW
    2PERSIAN BHETH;3GHAMAL;3DHALATH;1PTHAHA i;2m;2ez;1ZQAPHA i;2m;2ez;1RBASA i;2m;1ez ZLAMA x
    3ANGULAR;1HBASA i;2m;1HBASA-ESASA ez;1ESASA i;2m;1RWAHA;1FEMININE bx;1QUSHSHAYA;1RUKKAKHA
    1bj q cu i;4m;1t cu i;3m;1jq ey i;3m;1MUSIC;1BARREKH;74D:1a SOGDIAN ZHAIN;3KHAPH;3FE
    0ji a BEH b t cu HORIZONTALLY m;4bx m p t cu i;4t cu bb ap m;9p bj cu i;4bj cu m p bx i
    4ba d V m;4d V;2hv b bj cu i;4t cu bb ap m;2DAL b bj cu VERTICALLY m p d TAH;4ba d V m;2REH b v
    2SEEN b at cu i;2AIN b bj cu i;4t cu bb aa i;4bj cu VERTICALLY i;2FEH b bj cu m;4t cu bb ap m
    2KEHEH b bx i;4t cu i;6bb ap m;2bu b bx i;5m;2jb b bj cu m;4d TAH;5V;2LAM b fc
    2REH b bj cu VERTICALLY i;4gy i;2SEEN b bj cu VERTICALLY i;2hv b d ji a TAH m;8p bj cu
    2SEEN b d ji a TAH p bj cu;2REH b d ji a TAH p bj cu;2hv b d ji a TAH i
    2db b EXTENDED hu bs bj i;7t i;2FARSI ge b EXTENDED hu bs bj i;8t i;8at m
    2WAW b EXTENDED hu bs bj i;7t i;2ge BARREE b EXTENDED hu bs bj i;8t i;2hv b EXTENDED hu bs at m
    2SEEN b EXTENDED hu bs at i;4ba V;2KAF b bj cu i;0THAANA a HAA;2SHAVIYANI;2NOONU;2RAA;2BAA
    2LHAVIYANI;2KAAFU;2ALIFU;2VAAVU;2MEEMU;2FAAFU;2DHAALU;2THAA;2LAAMU;2GAAFU;2GNAVIYANI;2SEENU
    2DAVIYANI;2ZAVIYANI;2TAVIYANI;2YAA;2PAVIYANI;2JAVIYANI;2CHAVIYANI;2TTAA;2HHAA;2KHAA;2THAALU
    2ZAA;2SHEENU;2SAADHU;2DAADHU;2TO;2ZO;2AINU;2GHAINU;2QAAFU;2WAAVU;1ABAFILI;1AABAAFILI;1IBIFILI
    1EEBEEFILI;1UBUFILI;1OOBOOFILI;1EBEFILI;1EYBEYFILI;1OBOFILI;1OABOAFILI;1SUKUN;1a NAA
    7C0:0NKO bs dt;2br;2bj;2t;2at;2ay;2eu;2au;2ar;2cj;1a A;2EE;2I;2E;2U;2OO;2O;2DAGBASINNA;2N;2BA
    2PA;2TA;2JA;2jy;2DA;2RA;2RRA;2SA;2GBA;2FA;2KA;2LA;2NA WOLOSO;2MA;2kb;2NA;2HA;2WA;2YA;2kb WOLOSO
    2JONA JA;3jy;3RA;1ck es ew ef;3ho ef;3RISING ef;2ej DESCENDING ef;3ew ef;3ho ef;3RISING ef
    2NASALIZATION ai;2l bx i;1ew ef kd;1ho ef kd;1w OO DENNEN;2GBAKURUNEN;1dq;1cy ai;1LAJANYALAN
    7FD:1DANTAYALAN;1DOROME g;1TAMAN g;0SAMARITAN a ALAF;2BIT;2GAMAN;2DALAT;2IY;2BAA;2ZEN;2IT;2TIT
    2YUT;2KAAF;2LABAT;2MIM;2NUN;2SINGAAT;2IN;2FI;2TSAADIY;2QUF;2RISH;2SHAN;2TAAF;1ai IN;2IN-ALAF
    2OCCLUSION;2hy;1dy a EPENTHETIC YUT;1ai EPENTHETIC YUT;1bm g ej E;3E;3OVERLONG AA;3ej AA;3AA
    3OVERLONG A;3ej A;3A;1dy a es A;1bm g es A;3ej U;3U;1dy a I;1bm g ej I;3I;3O;3SUKUN;1ai NEQUDAA
    830:1bc NEQUDAA;2AFSAAQ;2ANGED;2BAU;2ATMAAU;2SHIYYAALAA;1dz ai;1bc MELODIC QITSA;2ZIQAA;2QITSA
    2ZAEF;2TURU;2ARKAANU;2SOF MASHFAAT;2ANNAAU;840:0MANDAIC a HALQA;2AB;2AG;2AD;2AH;2USHENNA;2AZ
    2IT;2ATT;2AKSA;2AK;2AL;2AM;2AN;2AS;2IN;2AP;2ASZ;2AQ;2AR;2ASH;2AT;2DUSHENNA;2KAD;2AIN
    1AFFRICATION ai;1VOCALIZATION ai;1GEMINATION ai;85E:1bc;860:0SYRIAC a MALAYALAM je;3JA;3kb;3TTA
    3NNA;3NNNA;3BHA;3RA;3LLA;3LLLA;3SSA;870:0ji a db b ATTACHED FATHA;5TOP h FATHA;4h ad v;4o ad v
    4ATTACHED KASRA;5fy h KASRA;5ROUND bx i;5h ROUND bx;5o ROUND bx;5ROUND bx m;4bx i
    4ATTACHED TOP h FATHA p bx i;4h ad v p bx i;4ATTACHED fy h KASRA p bx i;5TOP h FATHA p o di
    4h ad v p o di;4ATTACHED fy h KASRA p o di;5h gy;5o gy;1TATWEEL b OVERSTRUCK gy;4WAW;3bj cu m
    1a THIN ge;1BASELINE ROUND bx;1hh ROUND bx;1a jb b ba d V;2hv b ba d V m;2TAH b bx m;4t cu m
    2KEHEH b bj cu VERTICALLY m;1q gr;890:1POUND ai i;1PIASTRE ai i;898:1d ew WORD AL-JUZ
    2ho WORD ISHMAAM;4IMAALA;4TASHEEL;1MADDA WAAJIB;1gp db MOKHASSAS;1DOUBLED MADDA
    1cd MADDA cv MADDA;1a BEH b d V m;4gy i;2ei b bj cu i;2TAH b bj cu i;2FEH b bx m p t cu i
    2QAF b bx m;2LAM b l fc;2bu b t cu i;2ge b bj cu m p gy i;8bx i;2REH b LOOP;2WAW b bx WITHIN
    2ROHINGYA ge;2ho db;2DAL b t cu m;2SAD b t cu m;2GAF b ba v;2fk WAW;2ZAIN b ba V i
    2AIN b t cu m;2KAF b bx m;2QAF b bx m p NO cu i;2BEH b d bu i;2PEH b d bu i;2TEH b d TEH i
    2REH b d jb i;2ge b bj cu m p d jb i;2AFRICAN FEH;3QAF;3jb;2PEH b d V;2TEH b d V;2TTEH b d V
    2TCHEH b d V;2KEHEH b d V;2GHAIN b t cu i;2AFRICAN QAF b t cu i;2ei b t cu i;6m
    2LAM b d ji a TAH i;2GRAF;1d FARSI ge;2ew FARSI ge;3ge BARREE b bj cu m;3WORD SAH;3ZAH
    1dd ROUND bx i;4m;1SUKUN m;1dd ao m;2ROUND bx jj ao m;1d ho WAW;2ew WORD AR-RUB;3SAD;3AIN;3QAF
    3jb b KASRA;2ho jb b KASRA;2ew WORD ATH-THALATHA;4AS-SAJDA;4AN-NISF;4SAKTA;4QIF;4WAQFA
    3FOOTNOTE MARKER;3g SAFHA;1DISPUTED END OF AYAH;1bg DAMMA m;1jc FATHA;2DAMMA;2KASRA;2FATHATAN
    2DAMMATAN;2KASRATAN;1ef br bx i;2bj cu i;2LOOP i;2br bx m;2bj cu m;2LOOP m;1eg FATHATAN
    2DAMMATAN;2KASRATAN;1d ew WAW;1FATHA b di;3bx i;1KASRA b bx m;1o am i;1h am i;1o am m;1h am m
    1l h am i;5b bx;1h am i b bx;1DAMMA b bx;1ai SIDEWAYS jb GHUNNA;0DEVANAGARI g ba ci;2ci;2bv;2dx
    1a es A;2A;2AA;2I;2II;2U;2UU;2bz R;3L;2ln E;2es E;2E;2AI;2ln O;2es O;2O;2AU;2KA;2ke;2GA;2GHA
    2je;2CA;2jy;2JA;2JHA;2kb;2TTA;2il;2DDA;2iw;2NNA;2TA;2ks;2DA;2DHA;2NA;2NNNA;2PA;2PHA;2BA;2BHA
    2MA;2YA;2RA;2RRA;2LA;2LLA;2LLLA;2VA;2jf;2SSA;2SA;2HA;1bm g OE;3OOE;1g jk;2hw;1bm g AA;3I;3II;3U
    3UU;3bz R;4RR;3ln E;3es E;3E;3AI;3ln O;3es O;3O;3AU;1g el;1bm g PRISHTHAMATRA E;3AW;1OM
    1STRESS g UDATTA;3ANUDATTA;1df ev;1cb ev;1bm g ln ej E;3UE;3UUE;1a QA;2KHHA;2GHHA;2ZA;2DDDHA
    2RHA;2FA;2YYA;2bz RR;3LL;1bm g bz L;4LL;1ic;1l ic;1bs dt;2br;2bj;2t;2at;2ay;2eu;2au;2ar;2cj
    1dz g;1g ew SPACING bx;1a ln A;2OE;2OOE;2AW;2UE;2UUE;2MARWARI DDA;2ZHA;2al YA;2GGA;2JJA;2fp fb
    2DDDA;2BBA;0BENGALI ANJI;1g ci;2bv;2dx;985:1a A;2AA;2I;2II;2U;2UU;2bz R;3L;98F:2E;2AI;993:2O
    2AU;2KA;2ke;2GA;2GHA;2je;2CA;2jy;2JA;2JHA;2kb;2TTA;2il;2DDA;2iw;2NNA;2TA;2ks;2DA;2DHA;2NA
    9AA:2PA;2PHA;2BA;2BHA;2MA;2YA;2RA;9B2:2LA;9B6:2jf;2SSA;2SA;2HA;9BC:1g jk;2hw;1bm g AA;3I;3II;3U
    3UU;3bz R;4RR;9C7:3E;3AI;9CB:3O;3AU;1g el;1a KHANDA TA;9D7:1AU LENGTH ai;9DC:1a RRA;2RHA
    9DF:2YYA;2bz RR;3LL;1bm g bz L;4LL;9E6:1bs dt;2br;2bj;2t;2at;2ay;2eu;2au;2ar;2cj;1a RA b ad cm
    4bt cm;1RUPEE ai;2g;1CURRENCY NUMERATOR br;3bj;3t;3at;3br LESS THAN THE DENOMINATOR
    2DENOMINATOR SIXTEEN;1ISSHAR;1GANDA ai;1a VEDIC bv;1dz g;1SANDHI ai;A01:0GURMUKHI g ADAK BINDI
    2BINDI;2dx;A05:1a A;2AA;2I;2II;2U;2UU;A0F:2EE;2AI;A13:2OO;2AU;2KA;2ke;2GA;2GHA;2je;2CA;2jy;2JA
    2JHA;2kb;2TTA;2il;2DDA;2iw;2NNA;2TA;2ks;2DA;2DHA;2NA;A2A:2PA;2PHA;2BA;2BHA;2MA;2YA;2RA;A32:2LA
    2LLA;A35:2VA;2jf;A38:2SA;2HA;A3C:1g jk;A3E:1bm g AA;3I;3II;3U;3UU;A47:3EE;3AI;A4B:3OO;3AU;1g el
    A51:2UDAAT;A59:1a KHHA;2GHHA;2ZA;2RRA;A5E:2FA;A66:1bs dt;2br;2bj;2t;2at;2ay;2eu;2au;2ar;2cj
    1TIPPI;1ADDAK;1IRI;1URA;1EK ONKAR;1g YAKASH;1dz g;A81:0GUJARATI g ci;2bv;2dx;A85:1a A;2AA;2I
    2II;2U;2UU;2bz R;3L;1bm ln E;A8F:1a E;2AI;1bm ln O;A93:1a O;2AU;2KA;2ke;2GA;2GHA;2je;2CA;2jy
    2JA;2JHA;2kb;2TTA;2il;2DDA;2iw;2NNA;2TA;2ks;2DA;2DHA;2NA;AAA:2PA;2PHA;2BA;2BHA;2MA;2YA;2RA
    AB2:2LA;2LLA;AB5:2VA;2jf;2SSA;2SA;2HA;ABC:1g jk;2hw;1bm g AA;3I;3II;3U;3UU;3bz R;4RR;3ln E
    AC7:3E;3AI;3ln O;ACB:3O;3AU;1g el;AD0:1OM;AE0:1a bz RR;3LL;1bm g bz L;4LL;AE6:1bs dt;2br;2bj;2t
    2at;2ay;2eu;2au;2ar;2cj;1dz g;1RUPEE g;AF9:1a ZHA;1g SUKUN;2SHADDA;2MADDAH;2THREE-DOT jk i
    2ao jk i;2TWO-CIRCLE jk i;B01:0ORIYA g ci;2bv;2dx;B05:1a A;2AA;2I;2II;2U;2UU;2bz R;3L;B0F:2E
    2AI;B13:2O;2AU;2KA;2ke;2GA;2GHA;2je;2CA;2jy;2JA;2JHA;2kb;2TTA;2il;2DDA;2iw;2NNA;2TA;2ks;2DA
    2DHA;2NA;B2A:2PA;2PHA;2BA;2BHA;2MA;2YA;2RA;B32:2LA;2LLA;B35:2VA;2jf;2SSA;2SA;2HA;B3C:1g jk;2hw
    1bm g AA;3I;3II;3U;3UU;3bz R;4RR;B47:3E;3AI;B4B:3O;3AU;1g el;B55:2OVERLINE;1AI LENGTH ai
    1AU LENGTH ai;B5C:1a RRA;2RHA;B5F:2YYA;2bz RR;3LL;1bm g bz L;4LL;B66:1bs dt;2br;2bj;2t;2at;2ay
    2eu;2au;2ar;2cj;1ISSHAR;1a WA;1gq br ek;3cd;2t ig;2br SIXTEENTH;3hd;2t SIXTEENTHS
    B82:0TAMIL g bv;2dx;B85:1a A;2AA;2I;2II;2U;2UU;B8E:2E;2EE;2AI;B92:2O;2OO;2AU;2KA;B99:2je;2CA
    B9C:2JA;B9E:2kb;2TTA;BA3:2NNA;2TA;BA8:2NA;2NNNA;2PA;BAE:2MA;2YA;2RA;2RRA;2LA;2LLA;2LLLA;2VA;2jf
    2SSA;2SA;2HA;BBE:1bm g AA;3I;3II;3U;3UU;BC6:3E;3EE;3AI;BCA:3O;3OO;3AU;1g el;BD0:1OM
    BD7:1AU LENGTH ai;BE6:1bs dt;2br;2bj;2t;2at;2ay;2eu;2au;2ar;2cj;1cq io;2br ab;3ac;1DAY g
    1MONTH g;1YEAR g;1DEBIT g;1CREDIT g;1AS i g;1RUPEE g;1cq g;C00:0TELUGU g ck ci i;2ci;2bv;2dx
    2ck bv i;1a A;2AA;2I;2II;2U;2UU;2bz R;3L;C0E:2E;2EE;2AI;C12:2O;2OO;2AU;2KA;2ke;2GA;2GHA;2je;2CA
    2jy;2JA;2JHA;2kb;2TTA;2il;2DDA;2iw;2NNA;2TA;2ks;2DA;2DHA;2NA;C2A:2PA;2PHA;2BA;2BHA;2MA;2YA;2RA
    2RRA;2LA;2LLA;2LLLA;2VA;2jf;2SSA;2SA;2HA;C3C:1g jk;2hw;1bm g AA;3I;3II;3U;3UU;3bz R;4RR;C46:3E
    3EE;3AI;C4A:3O;3OO;3AU;1g el;C55:1LENGTH ai;1AI LENGTH ai;C58:1a TSA;2DZA;2RRRA
    C5D:2NAKAARA POLLU;C60:2bz RR;3LL;1bm g bz L;4LL;C66:1bs dt;2br;2bj;2t;2at;2ay;2eu;2au;2ar;2cj
    C77:1g SIDDHAM;1gq bs dt FOR ODD POWERS OF at;3br FOR ODD POWERS OF at;3bj FOR ODD POWERS OF at
    3t FOR ODD POWERS OF at;3br FOR EVEN POWERS OF at;3bj FOR EVEN POWERS OF at
    3t FOR EVEN POWERS OF at;1g TUUMU;0KANNADA g SPACING ci;2ci;2bv;2dx;2SIDDHAM;1a A;2AA;2I;2II;2U
    2UU;2bz R;3L;C8E:2E;2EE;2AI;C92:2O;2OO;2AU;2KA;2ke;2GA;2GHA;2je;2CA;2jy;2JA;2JHA;2kb;2TTA;2il
    2DDA;2iw;2NNA;2TA;2ks;2DA;2DHA;2NA;CAA:2PA;2PHA;2BA;2BHA;2MA;2YA;2RA;2RRA;2LA;2LLA;CB5:2VA;2jf
    2SSA;2SA;2HA;CBC:1g jk;2hw;1bm g AA;3I;3II;3U;3UU;3bz R;4RR;CC6:3E;3EE;3AI;CCA:3O;3OO;3AU;1g el
    CD5:1LENGTH ai;1AI LENGTH ai;CDD:1a NAKAARA POLLU;2FA;CE0:2bz RR;3LL;1bm g bz L;4LL;CE6:1bs dt
    2br;2bj;2t;2at;2ay;2eu;2au;2ar;2cj;CF1:1g JIHVAMULIYA;2UPADHMANIYA;D00:0MALAYALAM g ck bv i;2ci
    2bv;2dx;1a VEDIC bv;2A;2AA;2I;2II;2U;2UU;2bz R;3L;D0E:2E;2EE;2AI;D12:2O;2OO;2AU;2KA;2ke;2GA
    2GHA;2je;2CA;2jy;2JA;2JHA;2kb;2TTA;2il;2DDA;2iw;2NNA;2TA;2ks;2DA;2DHA;2NA;2NNNA;2PA;2PHA;2BA
    2BHA;2MA;2YA;2RA;2RRA;2LA;2LLA;2LLLA;2VA;2jf;2SSA;2SA;2HA;2TTTA;1g q fc el;2CIRCULAR el;2hw
    1bm g AA;3I;3II;3U;3UU;3bz R;4RR;D46:3E;3EE;3AI;D4A:3O;3OO;3AU;1g el;1a bx REPH;1g PARA
    D54:1a CHILLU M;3Y;3LLL;1AU LENGTH ai;1gq br ONE-HUNDRED-AND-SIXTIETH;3FORTIETH;2t EIGHTIETHS
    2br TWENTIETH;3TENTH;2t TWENTIETHS;2br FIFTH;1a hs II;2bz RR;3LL;1bm g bz L;4LL;D66:1bs dt;2br
    2bj;2t;2at;2ay;2eu;2au;2ar;2cj;1cq io;2br ab;3ac;1gq br ek;3cd;2t ig;2br SIXTEENTH;3hd
    2t SIXTEENTHS;1DATE ai;1a CHILLU NN;3N;3RR;3L;3LL;3K;D81:0SINHALA g ci;2ANUSVARAYA;2VISARGAYA
    D85:1a AYANNA;2AAYANNA;2AEYANNA;2AEEYANNA;2IYANNA;2IIYANNA;2UYANNA;2UUYANNA;2IRUYANNA
    2IRUUYANNA;2ILUYANNA;2ILUUYANNA;2EYANNA;2EEYANNA;2AIYANNA;2OYANNA;2OOYANNA;2AUYANNA
    D9A:2jl KAYANNA;2ip KAYANNA;2jl GAYANNA;2ip GAYANNA;2KANTAJA NAASIKYAYA;2SANYAKA GAYANNA
    2jl CAYANNA;2ip CAYANNA;2jl JAYANNA;2ip JAYANNA;2TAALUJA NAASIKYAYA;3SANYOOGA NAAKSIKYAYA
    2SANYAKA JAYANNA;2jl TTAYANNA;2ip TTAYANNA;2jl DDAYANNA;2ip DDAYANNA;2MUURDHAJA NAYANNA
    2SANYAKA DDAYANNA;2jl TAYANNA;2ip TAYANNA;2jl DAYANNA;2ip DAYANNA;2DANTAJA NAYANNA
    DB3:2SANYAKA DAYANNA;2jl PAYANNA;2ip PAYANNA;2jl BAYANNA;2ip BAYANNA;2MAYANNA;2AMBA BAYANNA
    2YAYANNA;2RAYANNA;DBD:2DANTAJA LAYANNA;DC0:2VAYANNA;2TAALUJA SAYANNA;2MUURDHAJA SAYANNA
    2DANTAJA SAYANNA;2HAYANNA;2MUURDHAJA LAYANNA;2FAYANNA;DCA:1g AL-LAKUNA;DCF:1bm g AELA-PILLA
    3KETTI AEDA-PILLA;3DIGA AEDA-PILLA;3KETTI IS-PILLA;3DIGA IS-PILLA;3KETTI PAA-PILLA
    DD6:3DIGA PAA-PILLA;DD8:3GAETTA-PILLA;3KOMBUVA;3DIGA KOMBUVA;3KOMBU DEKA
    3KOMBUVA HAA AELA-PILLA;5DIGA AELA-PILLA;5GAYANUKITTA;3GAYANUKITTA;DE6:1LITH bs dt;3br;3bj;3t
    3at;3ay;3eu;3au;3ar;3cj;DF2:1bm g DIGA GAETTA-PILLA;4GAYANUKITTA;1bc KUNDDALIYA
    E01:0THAI gz KO KAI;2KHO KHAI;3KHUAT;3KHWAI;3KHON;3RAKHANG;2NGO NGU;2CHO CHAN;3CHING;3CHANG
    2SO SO;2CHO CHOE;2YO YING;2DO CHADA;2TO PATAK;2THO THAN;3NANGMONTHO;3PHUTHAO;2NO NEN;2DO DEK
    2TO TAO;2THO THUNG;3THAHAN;3THONG;2NO NU;2BO BAIMAI;2PO PLA;2PHO PHUNG;2FO FA;2PHO PHAN;2FO FAN
    2PHO SAMPHAO;2MO MA;2YO YAK;2RO RUA;2RU;2LO LING;2LU;2WO WAEN;2SO SALA;3RUSI;3SUA;2HO HIP
    2LO CHULA;2O ANG;2HO NOKHUK;2PAIYANNOI;2SARA A;2MAI HAN-AKAT;2SARA AA;3AM;3I;3II;3UE;3UEE;3U
    3UU;2PHINTHU;E3F:1CURRENCY w BAHT;1gz SARA E;3AE;3O;3AI MAIMUAN;4MAIMALAI;2LAKKHANGYAO
    2MAIYAMOK;2MAITAIKHU;2MAI EK;3THO;3TRI;3CHATTAWA;2THANTHAKHAT;2NIKHAHIT;2YAMAKKAN;2FONGMAN
    1bs dt;2br;2bj;2t;2at;2ay;2eu;2au;2ar;2cj;1gz ANGKHANKHU;2KHOMUT;E81:0LAO a KO;2KHO SUNG
    E84:3TAM;E86:2PALI GHA;2NGO;2CO;2PALI jy;2SO TAM;E8C:2PALI JHA;2NYO;2PALI kb;3TTA;3il;3DDA;3iw
    3NNA;2DO;2TO;2THO SUNG;3TAM;2PALI DHA;2NO;2BO;2PO;2PHO SUNG;2FO TAM;2PHO TAM;2FO SUNG;2PALI BHA
    2MO;2YO;2LO LING;EA5:3LOOT;EA7:2WO;2SANSKRIT jf;3SSA;2SO SUNG;2HO SUNG;2PALI LLA;2O;2HO TAM
    1ELLIPSIS;1bm g A;3MAI KAN;3AA;3AM;3I;3II;3Y;3YY;3U;3UU;1g PALI el;1bm g MAI KON
    1SEMIVOWEL g LO;3NYO;EC0:1bm g E;3EI;3O;3AY;3AI;EC6:1KO LA;EC8:1ef MAI EK;3THO;3TI;3CATAWA
    1CANCELLATION ai;1NIGGAHITA;ED0:1bs dt;2br;2bj;2t;2at;2ay;2eu;2au;2ar;2cj;EDC:1HO NO;2MO
    1a KHMU GO;3NYO;F00:0TIBETAN hm OM;1ai GTER YIG MGO TRUNCATED A;5-UM RNAM BCAD MA
    6GTER TSHEG MA;2s YIG MGO MDUN MA;2CLOSING YIG MGO SGAB MA;2CARET YIG MGO PHUR SHAD MA
    2YIG MGO TSHEG SHAD MA;2SBRUL SHAD;2BSKUR YIG MGO;2BKA- SHOG YIG MGO;2INTERSYLLABIC TSHEG
    2DELIMITER TSHEG BSTAR;2SHAD;2NYIS SHAD;2TSHEG SHAD;2NYIS TSHEG SHAD;2RIN CHEN SPUNGS SHAD
    2RGYA GRAM SHAD;2CARET -DZUD RTAGS ME ej CAN;2GTER TSHEG;1LOGOTYPE g CHAD RTAGS;3LHAG RTAGS
    1ASTROLOGICAL g SGRA GCAN -CHAR RTAGS;3-KHYUD PA;3SDONG TSHUGS;1g RDEL DKAR GCIG;4GNYIS;4GSUM
    3NAG GCIG;4GNYIS;3DKAR RDEL NAG;1bs dt;2br;2bj;2t;2at;2ay;2eu;2au;2ar;2cj;2cd br;3bj;3t;3at;3ay
    3eu;3au;3ar;3cj;3dt;1ai BSDUS RTAGS;2NGAS BZUNG NYI ZLA;2CARET -DZUD RTAGS BZHI MIG CAN
    2NGAS BZUNG SGOR RTAGS;2CHE MGO;2TSA -PHRU;2GUG RTAGS GYON;4GYAS;2ANG KHANG GYON;4GYAS
    1g YAR TSHES;2MAR TSHES;1a KA;2ke;2GA;2GHA;2je;2CA;2jy;2JA;F49:2kb;2TTA;2il;2DDA;2iw;2NNA;2TA
    2ks;2DA;2DHA;2NA;2PA;2PHA;2BA;2BHA;2MA;2TSA;2TSHA;2DZA;2DZHA;2WA;2ZHA;2ZA;2-A;2YA;2RA;2LA;2jf
    2SSA;2SA;2HA;2A;2KSSA;2FIXED-FORM RA;2KKA;2RRA;F71:1bm g AA;3I;3II;3U;3UU;3bz R;4RR;4L;4LL;3E
    3EE;3O;3OO;1g RJES SU je RO;2RNAM BCAD;1bm g aq I;4II;1g NYI ZLA NAA DA;2SNA LDAN;1ai HALANTA
    2PALUTA;1g LCI RTAGS;2YANG RTAGS;2LCE TSA CAN;2MCHU CAN;2GRU CAN RGYINGS;3MED RGYINGS
    2ba MCHU CAN;1SUBJOINED g LCE TSA CAN;3MCHU CAN;3ba MCHU CAN;2a KA;3ke;3GA;3GHA;3je;3CA;3jy;3JA
    F99:3kb;3TTA;3il;3DDA;3iw;3NNA;3TA;3ks;3DA;3DHA;3NA;3PA;3PHA;3BA;3BHA;3MA;3TSA;3TSHA;3DZA;3DZHA
    3WA;3ZHA;3ZA;3-A;3YA;3RA;3LA;3jf;3SSA;3SA;3HA;3A;3KSSA;3FIXED-FORM WA;4YA;4RA;FBE:1KU RU ke
    4BZHI MIG CAN;1CANTILLATION g al BEAT;3bn BEAT;3CANG TE-U;3SBUB -CHAL;1w DRIL BU;2RDO RJE
    2PADMA GDAN;2RDO RJE RGYA GRAM;2PHUR PA;2NOR BU;4NYIS -KHYIL;4GSUM -KHYIL;4BZHI -KHYIL
    FCE:1g RDEL NAG RDEL DKAR;4GSUM;1ai BSKA- SHOG GI MGO RGYAN;2MNYAM YIG GI MGO RGYAN;2NYIS TSHEG
    2s BRDA RNYING YIG MGO MDUN MA;2CLOSING BRDA RNYING YIG MGO SGAB MA;0RIGHT-FACING SVASTI g
    0LEFT-FACING SVASTI g;0RIGHT-FACING SVASTI g b cu;0LEFT-FACING SVASTI g b cu
    0TIBETAN ai LEADING MCHAN RTAGS;2TRAILING MCHAN RTAGS;1000:0MYANMAR a KA;2ke;2GA;2GHA;2je;2CA
    2jy;2JA;2JHA;2kb;2NNYA;2TTA;2il;2DDA;2iw;2NNA;2TA;2ks;2DA;2DHA;2NA;2PA;2PHA;2BA;2BHA;2MA;2YA
    2RA;2LA;2WA;2SA;2HA;2LLA;2A;2SHAN A;2I;2II;2U;2UU;2E;2MON E;2O;2AU;1bm g TALL AA;3AA;3I;3II;3U
    3UU;3E;3AI;3MON II;4O;3E i;1g bv;2bx m;2dx;2el;2ASAT;1eq g bf YA;4RA;4WA;4HA;1a GREAT SA;1bs dt
    2br;2bj;2t;2at;2ay;2eu;2au;2ar;2cj;1g cz gi;2gi;1w LOCATIVE;2COMPLETED;2AFOREMENTIONED
    2GENITIVE;1a jf;2SSA;2bz R;3RR;3L;3LL;1bm g bz R;4RR;4L;4LL;1a MON je;3JHA;3BBA;3BBE
    1eq g MON bf NA;5MA;5LA;1a SGAW KAREN jf;1bm g SGAW KAREN EU;1ef ai SGAW KAREN HATHI;5KE PHO
    1a WESTERN PWO KAREN ks;5PWA;1bm g WESTERN PWO KAREN EU;6UE;1g WESTERN PWO KAREN TONE-1>5
    1a EASTERN PWO KAREN NNA;5YWA;5GHWA;1bm g GEBA KAREN I;3KAYAH OE;4U;4EE;1a SHAN KA;3ke;3GA;3CA
    3ZA;3kb;3DA;3NA;3PHA;3FA;3BA;3ks;3HA;1eq g SHAN bf WA;1bm g SHAN AA;4E;5i;4n Y;1g SHAN TONE-2
    3TONE-3;3TONE-5;3TONE-6;3COUNCIL TONE-2;4TONE-3;4EMPHATIC ef;1a RUMAI PALAUNG FA
    1g RUMAI PALAUNG TONE-5;1SHAN bs dt;3br;3bj;3t;3at;3ay;3eu;3au;3ar;3cj;1g KHAMTI TONE-1;3TONE-3
    1bm g AITON A;4AI;1w SHAN br;3cy;0GEORGIAN c a AN;3BAN;3GAN;3DON;3EN;3VIN;3ZEN;3TAN;3IN;3KAN
    3LAS;3MAN;3NAR;3ON;3PAR;3ZHAR;3RAE;3SAN;3TAR;3UN;3PHAR;3KHAR;3GHAN;3QAR;3lj;3CHIN;3CAN;3JIL
    3CIL;3CHAR;3XAN;3JHAN;3HAE;3HE;3HIE;3WE;3HAR;3HOE;10C7:3YN;10CD:3AEN;10D0:1a AN;2BAN;2GAN;2DON
    2EN;2VIN;2ZEN;2TAN;2IN;2KAN;2LAS;2MAN;2NAR;2ON;2PAR;2ZHAR;2RAE;2SAN;2TAR;2UN;2PHAR;2KHAR;2GHAN
    2QAR;2lj;2CHIN;2CAN;2JIL;2CIL;2CHAR;2XAN;2JHAN;2HAE;2HE;2HIE;2WE;2HAR;2HOE;2FI;2YN;2ELIFI
    2bg GAN;2AIN;1PARAGRAPH dc;0dy a GEORGIAN NAR;0GEORGIAN a AEN;2HARD g;2LABIAL g
    0HANGUL CHOSEONG KIYEOK;2SSANGKIYEOK;2NIEUN;2TIKEUT;2SSANGTIKEUT;2RIEUL;2MIEUM;2PIEUP
    2SSANGPIEUP;2SIOS;2SSANGSIOS;2IEUNG;2CIEUC;2SSANGCIEUC;2CHIEUCH;2KHIEUKH;2THIEUTH;2PHIEUPH
    2HIEUH;2NIEUN-KIYEOK;2SSANGNIEUN;2NIEUN-TIKEUT;2NIEUN-PIEUP;2TIKEUT-KIYEOK;2RIEUL-NIEUN
    2SSANGRIEUL;2RIEUL-HIEUH;2KAPYEOUNRIEUL;2MIEUM-PIEUP;2KAPYEOUNMIEUM;2PIEUP-KIYEOK;2PIEUP-NIEUN
    2PIEUP-TIKEUT;2PIEUP-SIOS;2PIEUP-SIOS-KIYEOK;2PIEUP-SIOS-TIKEUT;2PIEUP-SIOS-PIEUP
    2PIEUP-SSANGSIOS;2PIEUP-SIOS-CIEUC;2PIEUP-CIEUC;2PIEUP-CHIEUCH;2PIEUP-THIEUTH;2PIEUP-PHIEUPH
    2KAPYEOUNPIEUP;2KAPYEOUNSSANGPIEUP;2SIOS-KIYEOK;2SIOS-NIEUN;2SIOS-TIKEUT;2SIOS-RIEUL
    2SIOS-MIEUM;2SIOS-PIEUP;2SIOS-PIEUP-KIYEOK;2SIOS-SSANGSIOS;2SIOS-IEUNG;2SIOS-CIEUC
    2SIOS-CHIEUCH;2SIOS-KHIEUKH;2SIOS-THIEUTH;2SIOS-PHIEUPH;2SIOS-HIEUH;2CHITUEUMSIOS
    2CHITUEUMSSANGSIOS;2CEONGCHIEUMSIOS;2CEONGCHIEUMSSANGSIOS;2PANSIOS;2IEUNG-KIYEOK;2IEUNG-TIKEUT
    2IEUNG-MIEUM;2IEUNG-PIEUP;2IEUNG-SIOS;2IEUNG-PANSIOS;2SSANGIEUNG;2IEUNG-CIEUC;2IEUNG-CHIEUCH
    2IEUNG-THIEUTH;2IEUNG-PHIEUPH;2YESIEUNG;2CIEUC-IEUNG;2CHITUEUMCIEUC;2CHITUEUMSSANGCIEUC
    2CEONGCHIEUMCIEUC;2CEONGCHIEUMSSANGCIEUC;2CHIEUCH-KHIEUKH;2CHIEUCH-HIEUH;2CHITUEUMCHIEUCH
    2CEONGCHIEUMCHIEUCH;2PHIEUPH-PIEUP;2KAPYEOUNPHIEUPH;2SSANGHIEUH;2YEORINHIEUH;2KIYEOK-TIKEUT
    2NIEUN-SIOS;2NIEUN-CIEUC;2NIEUN-HIEUH;2TIKEUT-RIEUL;2FILLER;1JUNGSEONG FILLER;2A;2AE;2YA;2YAE
    2EO;2E;2YEO;2YE;2O;2WA;2WAE;2OE;2YO;2U;2WEO;2WE;2WI;2YU;2EU;2YI;2I;2A-O;2A-U;2YA-O;2YA-YO;2EO-O
    2EO-U;2EO-EU;2YEO-O;2YEO-U;2O-EO;2O-E;2O-YE;2O-O;2O-U;2YO-YA;2YO-YAE;2YO-YEO;2YO-O;2YO-I;2U-A
    2U-AE;2U-EO-EU;2U-YE;2U-U;2YU-A;2YU-EO;2YU-E;2YU-YEO;2YU-YE;2YU-U;2YU-I;2EU-U;2EU-EU;2YI-U;2I-A
    2I-YA;2I-O;2I-U;2I-EU;2I-ARAEA;2ARAEA;2ARAEA-EO;2ARAEA-U;2ARAEA-I;2SSANGARAEA;2A-EU;2YA-U
    2YEO-YA;2O-YA;2O-YAE;1JONGSEONG KIYEOK;2SSANGKIYEOK;2KIYEOK-SIOS;2NIEUN;2NIEUN-CIEUC
    2NIEUN-HIEUH;2TIKEUT;2RIEUL;2RIEUL-KIYEOK;2RIEUL-MIEUM;2RIEUL-PIEUP;2RIEUL-SIOS;2RIEUL-THIEUTH
    2RIEUL-PHIEUPH;2RIEUL-HIEUH;2MIEUM;2PIEUP;2PIEUP-SIOS;2SIOS;2SSANGSIOS;2IEUNG;2CIEUC;2CHIEUCH
    2KHIEUKH;2THIEUTH;2PHIEUPH;2HIEUH;2KIYEOK-RIEUL;2KIYEOK-SIOS-KIYEOK;2NIEUN-KIYEOK;2NIEUN-TIKEUT
    2NIEUN-SIOS;2NIEUN-PANSIOS;2NIEUN-THIEUTH;2TIKEUT-KIYEOK;2TIKEUT-RIEUL;2RIEUL-KIYEOK-SIOS
    2RIEUL-NIEUN;2RIEUL-TIKEUT;2RIEUL-TIKEUT-HIEUH;2SSANGRIEUL;2RIEUL-MIEUM-KIYEOK
    2RIEUL-MIEUM-SIOS;2RIEUL-PIEUP-SIOS;2RIEUL-PIEUP-HIEUH;2RIEUL-KAPYEOUNPIEUP;2RIEUL-SSANGSIOS
    2RIEUL-PANSIOS;2RIEUL-KHIEUKH;2RIEUL-YEORINHIEUH;2MIEUM-KIYEOK;2MIEUM-RIEUL;2MIEUM-PIEUP
    2MIEUM-SIOS;2MIEUM-SSANGSIOS;2MIEUM-PANSIOS;2MIEUM-CHIEUCH;2MIEUM-HIEUH;2KAPYEOUNMIEUM
    2PIEUP-RIEUL;2PIEUP-PHIEUPH;2PIEUP-HIEUH;2KAPYEOUNPIEUP;2SIOS-KIYEOK;2SIOS-TIKEUT;2SIOS-RIEUL
    2SIOS-PIEUP;2PANSIOS;2IEUNG-KIYEOK;2IEUNG-SSANGKIYEOK;2SSANGIEUNG;2IEUNG-KHIEUKH;2YESIEUNG
    2YESIEUNG-SIOS;2YESIEUNG-PANSIOS;2PHIEUPH-PIEUP;2KAPYEOUNPHIEUPH;2HIEUH-NIEUN;2HIEUH-RIEUL
    2HIEUH-MIEUM;2HIEUH-PIEUP;2YEORINHIEUH;2KIYEOK-NIEUN;2KIYEOK-PIEUP;2KIYEOK-CHIEUCH
    2KIYEOK-KHIEUKH;2KIYEOK-HIEUH;2SSANGNIEUN;0ETHIOPIC hm HA;2HU;2HI;2HAA;2HEE;2HE;2HO;2HOA;2LA
    2LU;2LI;2LAA;2LEE;2LE;2LO;2LWA;2HHA;2HHU;2HHI;2HHAA;2HHEE;2HHE;2HHO;2HHWA;2MA;2MU;2MI;2MAA;2MEE
    2ME;2MO;2MWA;2SZA;2SZU;2SZI;2SZAA;2SZEE;2SZE;2SZO;2SZWA;2RA;2RU;2RI;2RAA;2REE;2RE;2RO;2RWA;2SA
    2SU;2SI;2SAA;2SEE;2SE;2SO;2SWA;2jf;2SHU;2SHI;2SHAA;2SHEE;2SHE;2SHO;2SHWA;2QA;2QU;2QI;2QAA;2QEE
    2QE;2QO;2QOA;2QWA;124A:2QWI;2QWAA;2QWEE;2QWE;1250:2QHA;2QHU;2QHI;2QHAA;2QHEE;2QHE;2QHO
    1258:2QHWA;125A:2QHWI;2QHWAA;2QHWEE;2QHWE;1260:2BA;2BU;2BI;2BAA;2BEE;2BE;2BO;2BWA;2VA;2VU;2VI
    2VAA;2VEE;2VE;2VO;2VWA;2TA;2TU;2TI;2TAA;2TEE;2TE;2TO;2TWA;2CA;2CU;2CI;2CAA;2CEE;2CE;2CO;2CWA
    2XA;2XU;2XI;2XAA;2XEE;2XE;2XO;2XOA;2XWA;128A:2XWI;2XWAA;2XWEE;2XWE;1290:2NA;2NU;2NI;2NAA;2NEE
    2NE;2NO;2NWA;2kb;2NYU;2NYI;2NYAA;2NYEE;2NYE;2NYO;2NYWA;2fp A;3U;3I;3AA;3EE;3E;3O;3WA;2KA;2KU
    2KI;2KAA;2KEE;2KE;2KO;2KOA;2KWA;12B2:2KWI;2KWAA;2KWEE;2KWE;12B8:2KXA;2KXU;2KXI;2KXAA;2KXEE;2KXE
    2KXO;12C0:2KXWA;12C2:2KXWI;2KXWAA;2KXWEE;2KXWE;12C8:2WA;2WU;2WI;2WAA;2WEE;2WE;2WO;2WOA
    2PHARYNGEAL A;3U;3I;3AA;3EE;3E;3O;12D8:2ZA;2ZU;2ZI;2ZAA;2ZEE;2ZE;2ZO;2ZWA;2ZHA;2ZHU;2ZHI;2ZHAA
    2ZHEE;2ZHE;2ZHO;2ZHWA;2YA;2YU;2YI;2YAA;2YEE;2YE;2YO;2YOA;2DA;2DU;2DI;2DAA;2DEE;2DE;2DO;2DWA
    2DDA;2DDU;2DDI;2DDAA;2DDEE;2DDE;2DDO;2DDWA;2JA;2JU;2JI;2JAA;2JEE;2JE;2JO;2JWA;2GA;2GU;2GI;2GAA
    2GEE;2GE;2GO;2GOA;2GWA;1312:2GWI;2GWAA;2GWEE;2GWE;1318:2GGA;2GGU;2GGI;2GGAA;2GGEE;2GGE;2GGO
    2GGWAA;2ks;2THU;2THI;2THAA;2THEE;2THE;2THO;2THWA;2jy;2CHU;2CHI;2CHAA;2CHEE;2CHE;2CHO;2CHWA;2PHA
    2PHU;2PHI;2PHAA;2PHEE;2PHE;2PHO;2PHWA;2TSA;2TSU;2TSI;2TSAA;2TSEE;2TSE;2TSO;2TSWA;2TZA;2TZU;2TZI
    2TZAA;2TZEE;2TZE;2TZO;2TZOA;2FA;2FU;2FI;2FAA;2FEE;2FE;2FO;2FWA;2PA;2PU;2PI;2PAA;2PEE;2PE;2PO
    2PWA;2RYA;2MYA;2FYA;135D:1ck GEMINATION p bm LENGTH ai;2bm LENGTH ai;2GEMINATION ai;1gi ai
    1WORDSPACE;1hf fb;1dq;1iz;1hp;1PREFACE hp;1ec ai;1PARAGRAPH dc;1bs br;2bj;2t;2at;2ay;2eu;2au
    2ar;2cj;1cq io;2em;2ih;2FORTY;2hn;2SIXTY;2eh;2EIGHTY;2fa;2ab;2io ac;1380:1hm SEBATBEIT MWA;2MWI
    2MWEE;2MWE;2SEBATBEIT BWA;2BWI;2BWEE;2BWE;2SEBATBEIT FWA;2FWI;2FWEE;2FWE;2SEBATBEIT PWA;2PWI
    2PWEE;2PWE;1TONAL ai YIZET;3DERET;3RIKRIK;3es RIKRIK;3DIFAT;3KENAT;3CHIRET;3HIDET;3DERET-HIDET
    3KURT;13A0:0CHEROKEE a A;2E;2I;2O;2U;2V;2GA;2KA;2GE;2GI;2GO;2GU;2GV;2HA;2HE;2HI;2HO;2HU;2HV;2LA
    2LE;2LI;2LO;2LU;2LV;2MA;2ME;2MI;2MO;2MU;2NA;2HNA;2NAH;2NE;2NI;2NO;2NU;2NV;2QUA;2QUE;2QUI;2QUO
    2QUU;2QUV;2SA;2S;2SE;2SI;2SO;2SU;2SV;2DA;2TA;2DE;2TE;2DI;2TI;2DO;2DU;2DV;2DLA;2TLA;2TLE;2TLI
    2TLO;2TLU;2TLV;2TSA;2TSE;2TSI;2TSO;2TSU;2TSV;2WA;2WE;2WI;2WO;2WU;2WV;2YA;2YE;2YI;2YO;2YU;2YV
    2MV;13F8:1d a YE;3YI;3YO;3YU;3YV;3MV;1400:0CANADIAN SYLLABICS HYPHEN;2E;2AAI;2I;2II;2O;2OO
    2Y-CREE OO;2CARRIER EE;3I;2A;2AA;2WE;2ag WE;2WI;2ag WI;2WII;2ag WII;2WO;2ag WO;2WOO;2ag WOO
    2NASKAPI WOO;2WA;2ag WA;2WAA;2ag WAA;2NASKAPI WAA;2AI;2Y-CREE W;2fp fb;2n cb;3df;3fy cd di
    3TOP cd di;3h cd di;3di;3l cb;4es q STROKES;3ad bx;3es x v;3by;3ce jx;2EN;2IN;2ON;2AN;2PE;2PAAI
    2PI;2PII;2PO;2POO;2Y-CREE POO;2CARRIER HEE;3HI;2PA;2PAA;2PWE;2ag PWE;2PWI;2ag PWI;2PWII
    2ag PWII;2PWO;2ag PWO;2PWOO;2ag PWOO;2PWA;2ag PWA;2PWAA;2ag PWAA;2Y-CREE PWAA;2P;2ag P
    2CARRIER H;2TE;2TAAI;2TI;2TII;2TO;2TOO;2Y-CREE TOO;2CARRIER DEE;3DI;2TA;2TAA;2TWE;2ag TWE;2TWI
    2ag TWI;2TWII;2ag TWII;2bj;2ag bj;2TWOO;2ag TWOO;2TWA;2ag TWA;2TWAA;2ag TWAA;2NASKAPI TWAA;2T
    2TTE;2TTI;2TTO;2TTA;2KE;2KAAI;2KI;2KII;2KO;2KOO;2Y-CREE KOO;2KA;2KAA;2KWE;2ag KWE;2KWI;2ag KWI
    2KWII;2ag KWII;2KWO;2ag KWO;2KWOO;2ag KWOO;2KWA;2ag KWA;2KWAA;2ag KWAA;2NASKAPI KWAA;2K;2KW
    2SOUTH-SLAVEY KEH;3KIH;3KOH;3KAH;2CE;2CAAI;2CI;2CII;2CO;2COO;2Y-CREE COO;2CA;2CAA;2CWE;2ag CWE
    2CWI;2ag CWI;2CWII;2ag CWII;2CWO;2ag CWO;2CWOO;2ag CWOO;2CWA;2ag CWA;2CWAA;2ag CWAA
    2NASKAPI CWAA;2C;2SAYISI TH;2ME;2MAAI;2MI;2MII;2MO;2MOO;2Y-CREE MOO;2MA;2MAA;2MWE;2ag MWE;2MWI
    2ag MWI;2MWII;2ag MWII;2MWO;2ag MWO;2MWOO;2ag MWOO;2MWA;2ag MWA;2MWAA;2ag MWAA;2NASKAPI MWAA;2M
    2ag M;2MH;2ATHAPASCAN M;2SAYISI M;2NE;2NAAI;2NI;2NII;2NO;2NOO;2Y-CREE NOO;2NA;2NAA;2NWE;2ag NWE
    2NWA;2ag NWA;2NWAA;2ag NWAA;2NASKAPI NWAA;2N;2CARRIER NG;2NH;2LE;2LAAI;2LI;2LII;2LO;2LOO
    2Y-CREE LOO;2LA;2LAA;2LWE;2ag LWE;2LWI;2ag LWI;2LWII;2ag LWII;2LWO;2ag LWO;2LWOO;2ag LWOO;2LWA
    2ag LWA;2LWAA;2ag LWAA;2L;2ag L;2bf L;2SE;2SAAI;2SI;2SII;2SO;2SOO;2Y-CREE SOO;2SA;2SAA;2SWE
    2ag SWE;2SWI;2ag SWI;2SWII;2ag SWII;2SWO;2ag SWO;2SWOO;2ag SWOO;2SWA;2ag SWA;2SWAA;2ag SWAA
    2NASKAPI SWAA;2S;2ATHAPASCAN S;2SW;2BLACKFOOT S;2MOOSE-CREE SK;2NASKAPI SKW;3S-W;3SPWA;3STWA
    3SKWA;3SCWA;2SHE;2SHI;2SHII;2SHO;2SHOO;2jf;2SHAA;2SHWE;2ag SHWE;2SHWI;2ag SHWI;2SHWII;2ag SHWII
    2SHWO;2ag SHWO;2SHWOO;2ag SHWOO;2SHWA;2ag SHWA;2SHWAA;2ag SHWAA;2SH;2YE;2YAAI;2YI;2YII;2YO;2YOO
    2Y-CREE YOO;2YA;2YAA;2YWE;2ag YWE;2YWI;2ag YWI;2YWII;2ag YWII;2YWO;2ag YWO;2YWOO;2ag YWOO;2YWA
    2ag YWA;2YWAA;2ag YWAA;2NASKAPI YWAA;2Y;2BIBLE-CREE Y;2ag Y;2SAYISI YI;2RE;2R-CREE RE;2ag LE
    2RAAI;2RI;2RII;2RO;2ROO;2ag LO;2RA;2RAA;2ag LA;2RWAA;2ag RWAA;2R;2ag R;2bf R;2FE;2FAAI;2FI;2FII
    2FO;2FOO;2FA;2FAA;2FWAA;2ag FWAA;2F;2THE;2N-CREE THE;2THI;2N-CREE THI;2THII;2N-CREE THII;2THO
    2THOO;2ks;2THAA;2THWAA;2ag THWAA;2TH;2TTHE;2TTHI;2TTHO;2il;2TTH;2TYE;2TYI;2TYO;2TYA;2NUNAVIK HE
    3HI;3HII;3HO;3HOO;3HA;3HAA;3H;2NUNAVUT H;2HK;2QAAI;2QI;2QII;2QO;2QOO;2QA;2QAA;2Q;2TLHE;2TLHI
    2TLHO;2TLHA;2ag RE;3RI;3RO;3RA;2NGAAI;2NGI;2NGII;2NGO;2NGOO;2je;2NGAA;2NG;2NNG;2SAYISI SHE;3SHI
    3SHO;3jf;2WOODS-CREE THE;3THI;3THO;3ks;3TH;2LHI;2LHII;2LHO;2LHOO;2LHA;2LHAA;2LH;2TH-CREE THE
    3THI;3THII;3THO;3THOO;3ks;3THAA;3TH;2AIVILIK B;2BLACKFOOT E;3I;3O;3A;3WE;3WI;3WO;3WA;3NE;3NI
    3NO;3NA;3KE;3KI;3KO;3KA;2SAYISI HE;3HI;3HO;3HA;2CARRIER GHU;3GHO;3GHE;3GHEE;3GHI;3GHA;3RU;3RO
    3RE;3REE;3RI;3RA;3WU;3WO;3WE;3WEE;3WI;3WA;3HWU;3HWO;3HWE;3HWEE;3HWI;3HWA;3THU;3THO;3THE;3THEE
    3THI;3ks;3TTU;3TTO;3TTE;3TTEE;3TTI;3TTA;3PU;3PO;3PE;3PEE;3PI;3PA;3P;3GU;3GO;3GE;3GEE;3GI;3GA
    3KHU;3KHO;3KHE;3KHEE;3KHI;3ke;3KKU;3KKO;3KKE;3KKEE;3KKI;3KKA;3KK;3NU;3NO;3NE;3NEE;3NI;3NA;3MU
    3MO;3ME;3MEE;3MI;3MA;3YU;3YO;3YE;3YEE;3YI;3YA;3JU;2SAYISI JU;2CARRIER JO;3JE;3JEE;3JI
    2SAYISI JI;2CARRIER JA;3JJU;3JJO;3JJE;3JJEE;3JJI;3JJA;3LU;3LO;3LE;3LEE;3LI;3LA;3DLU;3DLO;3DLE
    3DLEE;3DLI;3DLA;3LHU;3LHO;3LHE;3LHEE;3LHI;3LHA;3TLHU;3TLHO;3TLHE;3TLHEE;3TLHI;3TLHA;3TLU;3TLO
    3TLE;3TLEE;3TLI;3TLA;3ZU;3ZO;3ZE;3ZEE;3ZI;3ZA;3Z;3s Z;3DZU;3DZO;3DZE;3DZEE;3DZI;3DZA;3SU;3SO
    3SE;3SEE;3SI;3SA;3SHU;3SHO;3SHE;3SHEE;3SHI;3jf;3SH;3TSU;3TSO;3TSE;3TSEE;3TSI;3TSA;3CHU;3CHO
    3CHE;3CHEE;3CHI;3jy;3TTSU;3TTSO;3TTSE;3TTSEE;3TTSI;3TTSA;2CHI g;2hf fb;2QAI;2NGAI;2NNGI;2NNGII
    2NNGO;2NNGOO;2NNGA;2NNGAA;2WOODS-CREE THWEE;3THWI;3THWII;3THWO;3THWOO;3THWA;3THWAA;3n TH
    2BLACKFOOT W;0OGHAM kj ai;1a BEITH;2LUIS;2FEARN;2SAIL;2NION;2UATH;2DAIR;2TINNE;2COLL;2CEIRT
    2MUIN;2GORT;2NGEADAL;2STRAIF;2RUIS;2AILM;2ONN;2UR;2EADHADH;2IODHADH;2EABHADH;2OR;2UILLEANN
    2IFIN;2EAMHANCHOLL;2PEITH;1FEATHER ai;1aq FEATHER ai;16A0:0RUNIC a FEHU FEOH FE F;2V;2URUZ UR U
    2YR;2Y;2W;2THURISAZ THURS THORN;2ETH;2ANSUZ A;2OS O;2AC A;2AESC;2LONG-BRANCH-OSS O
    2SHORT-TWIG-OSS O;2O;2OE;2ON;2RAIDO RAD REID R;2KAUNA;2CEN;2KAUN K;2G;2ENG;2GEBO GYFU G;2GAR
    2WUNJO WYNN W;2HAGLAZ H;2HAEGL H;2LONG-BRANCH-HAGALL H;2SHORT-TWIG-HAGALL H;2NAUDIZ NYD NAUD N
    2SHORT-TWIG-NAUD N;2DOTTED-N;2ISAZ IS ISS I;2E;2JERAN J;2GER;2LONG-BRANCH-AR AE
    2SHORT-TWIG-AR A;2IWAZ EOH;2PERTHO PEORTH P;2ALGIZ EOLHX;2SOWILO S;2SIGEL LONG-BRANCH-SOL S
    2SHORT-TWIG-SOL S;2C;2Z;2TIWAZ TIR TYR T;2SHORT-TWIG-TYR T;2D;2BERKANAN BEORC BJARKAN B
    2SHORT-TWIG-BJARKAN B;2DOTTED-P;2OPEN-P;2EHWAZ EH E;2MANNAZ MAN M;2LONG-BRANCH-MADR M
    2SHORT-TWIG-MADR M;2LAUKAZ LAGU LOGR L;2DOTTED-L;2INGWAZ;2ING;2DAGAZ DAEG D;2OTHALAN ETHEL O
    2EAR;2IOR;2CWEORTH;2CALC;2CEALC;2STAN;2LONG-BRANCH-YR;2SHORT-TWIG-YR;2ICELANDIC-YR;2Q;2X;1bw bc
    1jm bc;1fr bc;1ARLAUG w;1TVIMADUR w;1BELGTHOR w;1a K;2SH;2OO;2FRANKS CASKET OS;4IS;4EH;4AC
    4AESC;1700:0TAGALOG a A;2I;2U;2KA;2GA;2je;2TA;2DA;2NA;2PA;2BA;2MA;2YA;2RA;2LA;2WA;2SA;2HA
    1bm g I;3U;1g el;2PAMUDPOD;171F:1a hs RA;0HANUNOO a A;2I;2U;2KA;2GA;2je;2TA;2DA;2NA;2PA;2BA;2MA
    2YA;2RA;2LA;2WA;2SA;2HA;1bm g I;3U;1g PAMUDPOD;0PHILIPPINE bw bc;1l bc;1740:0BUHID a A;2I;2U
    2KA;2GA;2je;2TA;2DA;2NA;2PA;2BA;2MA;2YA;2RA;2LA;2WA;2SA;2HA;1bm g I;3U;1760:0TAGBANWA a A;2I;2U
    2KA;2GA;2je;2TA;2DA;2NA;2PA;2BA;2MA;2YA;176E:2LA;2WA;2SA;1772:1bm g I;3U;1780:0KHMER a KA;2ke
    2KO;2KHO;2NGO;2CA;2jy;2CO;2CHO;2NYO;2DA;2il;2DO;2TTHO;2NNO;2TA;2ks;2TO;2THO;2NO;2BA;2PHA;2PO
    2PHO;2MO;2YO;2RO;2LO;2VO;2jf;2SSO;2SA;2HA;2LA;2QA;1kl bm QAQ;3QAA;3QI;3QII;3QU;3QUK;3QUU;3QUUV
    3RY;3RYY;3LY;3LYY;3QE;3QAI;3QOO TYPE br;5bj;3QAU;1bm INHERENT AQ;3AA;2g AA;3I;3II;3Y;3YY;3U;3UU
    3UA;3OE;3YA;3IE;3E;3AE;3AI;3OO;3AU;1g NIKAHIT;2REAHMUK;2YUUKALEAPINTU;2MUUSIKATOAN;2TRIISAP
    2BANTOC;2ROBAT;2TOANDAKHIAT;2KAKABAT;2AHSDA;2SAMYOK SANNYA;2VIRIAM;2COENG;2BATHAMASAT;2KHAN
    2BARIYOOSAN;2CAMNUC PII KUUH;2LEK TOO;2BEYYAL;2PHNAEK MUAN;2KOOMUUT;1CURRENCY w RIEL
    1g AVAKRAHASANYA;2ATTHACAN;17E0:1bs dt;2br;2bj;2t;2at;2ay;2eu;2au;2ar;2cj;17F0:1w LEK ATTAK SON
    4MUOY;4PII;4BEI;4BUON;4PRAM;4PRAM-MUOY;4PRAM-PII;4PRAM-BEI;4PRAM-BUON;1800:0MONGOLIAN BIRGA
    1ELLIPSIS;1dq;1hf fb;1hp;1at cu;1TODO SOFT HYPHEN;1SIBE hm BOUNDARY MARKER;1MANCHU dq;2hf fb
    1NIRUGU;1FREE VARIATION SELECTOR br;4bj;4t;1bm dc;1FREE VARIATION SELECTOR at;1bs dt;2br;2bj;2t
    2at;2ay;2eu;2au;2ar;2cj;1820:1a A;2E;2I;2O;2U;2OE;2UE;2EE;2NA;2ANG;2BA;2PA;2QA;2GA;2MA;2LA;2SA
    2jf;2TA;2DA;2jy;2JA;2YA;2RA;2WA;2FA;2KA;2ke;2TSA;2ZA;2HAA;2ZRA;2LHA;2ZHI;2CHI;2TODO ej bm g;3E
    3I;3O;3U;3OE;3UE;3ANG;3BA;3PA;3QA;3GA;3MA;3TA;3DA;3jy;3JA;3TSA;3YA;3WA;3KA;3GAA;3HAA;3JIA;3NIA
    3DZA;2SIBE E;3I;3IY;3UE;3U;3ANG;3KA;3GA;3HA;3PA;3jf;3TA;3DA;3JA;3FA;3GAA;3HAA;3TSA;3ZA;3RAA;3jy
    3ZHA;2MANCHU I;3KA;3RA;3FA;3ZHA;2jy b bj cu;1880:2ALI GALI bv br;4dx br;4DAMARU;4UBADAMA
    4ba UBADAMA;4BALUDA;4t BALUDA;4A;4I;4KA;4je;4CA;4TTA;4il;4DDA;4NNA;4TA;4DA;4PA;4PHA;4SSA;4ZHA
    4ZA;4AH;2TODO ALI GALI TA;5ZHA;2MANCHU ALI GALI GHA;5je;5CA;5JHA;5TTA;5iw;5TA;5DHA;5SSA;5CYA
    5ZHA;5ZA;2ALI GALI cd U;5YA;2MANCHU ALI GALI BHA;2ALI GALI DAGALGA;2MANCHU ALI GALI LHA
    18B0:0CANADIAN SYLLABICS OY;2AY;2AAY;2WAY;2POY;2PAY;2PWOY;2TAY;2KAY;2KWAY;2MAY;2NOY;2NAY;2LAY
    2SOY;2SAY;2SHOY;2SHAY;2SHWOY;2YOY;2YAY;2RAY;2NWI;2OJIBWAY NWI;2NWII;2OJIBWAY NWII;2NWO
    2OJIBWAY NWO;2NWOO;2OJIBWAY NWOO;2RWEE;2RWI;2RWII;2RWO;2RWOO;2RWA;2OJIBWAY P;3T;3K;3C;3M;3N;3S
    3SH;2EASTERN W;2WESTERN W;2n d di;3hh bx;2R-CREE RWE;2ag LOO;3LAA;2THWE;2THWA;2TTHWE;2TTHOO
    2TTHAA;2TLHWE;2TLHOO;2SAYISI SHWE;3SHOO;3HOO;2CARRIER GWU;3DENE GEE;3GAA;3GWA;2SAYISI JUU
    2CARRIER JWA;2BEAVER DENE L;4R;2CARRIER DENTAL S;1900:0LIMBU VOWEL-CARRIER a;1a KA;2ke;2GA;2GHA
    2je;2CA;2jy;2JA;2JHA;2YAN;2TA;2ks;2DA;2DHA;2NA;2PA;2PHA;2BA;2BHA;2MA;2YA;2RA;2LA;2WA;2jf;2SSA
    2SA;2HA;2GYAN;2TRA;1920:1bm g A;3I;3U;3EE;3AI;3OO;3AU;3E;3O;1SUBJOINED a YA;3RA;3WA
    1930:1d a KA;3je;3bv;3TA;3NA;3PA;3MA;3RA;3LA;1g MUKPHRENG;2KEMPHRENG;2SA-I;1940:2LOO
    1944:1cy ai;1ec ai;1bs dt;2br;2bj;2t;2at;2ay;2eu;2au;2ar;2cj;0TAI LE a KA;3XA;3je;3TSA;3SA;3YA
    3TA;3ks;3LA;3PA;3PHA;3MA;3FA;3VA;3HA;3QA;3ke;3TSHA;3NA;3A;3I;3EE;3EH;3U;3OO;3O;3UE;3E;3AUE;3AI
    1970:3TONE-2>5;1980:0NEW TAI LUE a ew QA;4ho QA;4ew KA;5XA;5je;4ho KA;5XA;5je;4ew TSA;5SA;5YA
    4ho TSA;5SA;5YA;4ew TA;5ks;5NA;4ho TA;5ks;5NA;4ew PA;5PHA;5MA;4ho PA;5PHA;5MA;4ew FA;5VA;5LA
    4ho FA;5VA;5LA;4ew HA;5DA;5BA;4ho HA;5DA;5BA;4ew KVA;5XVA;4ho KVA;5XVA;4ew SUA;4ho SUA
    19B0:3bm g bm SHORTENER;5AA;5II;5U;5UU;5E;5AE;5O;5OA;5UE;5AY;5AAY;5UY;5OY;5OAY;5UEY;5IY;3a n V
    5NG;5N;5M;5K;5D;5B;3ef MARK-1;4MARK-2;19D0:3bs dt;4br;4bj;4t;4at;4ay;4eu;4au;4ar;4cj
    3THAM bs br;19DE:3g LAE;4LAEV;0KHMER w PATHAMASAT;2MUOY KOET;2PII KOET;2BEI KOET;2BUON KOET
    2PRAM KOET;2PRAM-MUOY KOET;2PRAM-PII KOET;2PRAM-BEI KOET;2PRAM-BUON KOET;2DAP KOET
    2DAP-MUOY KOET;2DAP-PII KOET;2DAP-BEI KOET;2DAP-BUON KOET;2DAP-PRAM KOET;2TUTEYASAT;2MUOY ROC
    2PII ROC;2BEI ROC;2BUON ROC;2PRAM ROC;2PRAM-MUOY ROC;2PRAM-PII ROC;2PRAM-BEI ROC;2PRAM-BUON ROC
    2DAP ROC;2DAP-MUOY ROC;2DAP-PII ROC;2DAP-BEI ROC;2DAP-BUON ROC;2DAP-PRAM ROC;0BUGINESE a KA;2GA
    2je;2NGKA;2PA;2BA;2MA;2MPA;2TA;2DA;2NA;2NRA;2CA;2JA;2kb;2NYCA;2YA;2RA;2LA;2VA;2SA;2A;2HA
    1bm g I;3U;3E;3O;3AE;1A1E:1PALLAWA;1END OF gi;0TAI THAM a ew KA;4ke;4KXA;3ho KA;4KXA;4ke;3je
    3ew CA;4jy;3ho CA;4SA;4jy;3kb;3RATA;3ew RATHA;3DA;3ho RATHA;3RANA;3ew TA;4ks;3ho TA;4ks;3NA;3BA
    3ew PA;4PHA;4FA;3ho PA;4FA;4PHA;3MA;3ho YA;3ew YA;3RA;3RUE;3LA;3LUE;3WA;3ew jf;4SSA;4SA;4HA
    3LLA;3A;3ho HA;3I;3II;3U;3UU;3EE;3OO;3LAE;3GREAT SA;2eq g bf RA;5LA;4LA TANG LAI
    2g MAI KANG LAI;2eq g n je;4ho PA;4ew RATHA OR ho PA;4MA;4BA;4SA;1A60:2g SAKOT;2bm g A;4MAI SAT
    4AA;4TALL AA;4I;4II;4UE;4UUE;4U;4UU;4O;4OA m;4OY;4E;4AE;4OO;4AI;4THAM AI;4OA i;2g MAI KANG
    3TONE-1;3TONE-2;3KHUEN TONE-3>3;3RA HAAM;3MAI SAM;3KHUEN-LUE KARAN;1A7F:2ck hz bx;2HORA bs dt
    4br;4bj;4t;4at;4ay;4eu;4au;4ar;4cj;1A90:2THAM bs dt;4br;4bj;4t;4at;4ay;4eu;4au;4ar;4cj
    1AA0:2g WIANG;3WIANGWAAK;3SAWAN;3KEOW;3HOY;3DOKMAI;3aq bp RANA;3MAI YAMOK;3KAAN;3KAANKUU
    3SATKAAN;3SATKAANKUU;3HANG;3CAANG;1AB0:0ck DOUBLED af ev;1DIAERESIS-RING;1INFINITY;1aa f;1dr bx
    1X-X m;1WIGGLY ey m;1eg ai m;1l eg ai m;1bn CENTRALIZATION v m;1STRONG CENTRALIZATION v m
    1PARENTHESES i;1l PARENTHESES i;1PARENTHESES m;2gn;1eo d a W m;4bg W m;1o be i o;1h be i h
    1o be m o;1h be m h;1an BRACKETS i;1cq g i;1ba l ARCH i;1by g i;1l by g i;4m;1dr cb ev
    1eo d a ie G;5R;5T;1B00:0BALINESE g ULU RICEM;3ln;2CECEK;2SURANG;2BISAH;1a AKARA;3TEDUNG;2IKARA
    3TEDUNG;2UKARA;3TEDUNG;2RA REPA;4TEDUNG;2LA LENGA;4TEDUNG;2EKARA;2AIKARA;2OKARA;3TEDUNG;2KA
    3MAHAPRANA;2GA;3GORA;2je;2CA;3LACA;2JA;3JERA;2kb;2TA LATIK;3MURDA MAHAPRANA;2DA MURDA ALPAPRANA
    4MAHAPRANA;2NA RAMBAT;2TA;3TAWA;2DA;3MADU;2NA;2PA;3KAPAL;2BA;3KEMBANG;2MA;2YA;2RA;2LA;2WA
    2SA SAGA;3SAPA;2SA;2HA;1g REREKAN;1bm g TEDUNG;3ULU;4SARI;3SUKU;4ILUT;3RA REPA;5TEDUNG
    3LA LENGA;5TEDUNG;3TALING;4REPA;4TEDUNG;4REPA TEDUNG;3PEPET;4TEDUNG;1ADEG ADEG;1a KAF SASAK
    2KHOT SASAK;2TZIR SASAK;2EF SASAK;2VE SASAK;2ZAL SASAK;2ASYURA SASAK;2hs JNYA;1B50:1bs dt;2br
    2bj;2t;2at;2ay;2eu;2au;2ar;2cj;1PANTI;1PAMADA;1WINDU;1CARIK PAMUNGKAH;2SIKI;2PAREREN;1PAMENENG
    1kt w DONG;3DENG;3DUNG;3DANG;4SURANG;3DING;3DAENG;3DEUNG;3DAING;3DANG GEDE;3ck TEGEH;4ENDEP
    4KEMPUL;4KEMPLI;4JEGOGAN;4KEMPUL b JEGOGAN;4KEMPLI b JEGOGAN;4BENDE;4GONG;3RIGHT-HAND eg DUG
    5DAG;4fn TUK;5TAK;3LEFT-HAND eg PANG;5PUNG;4fn PLAK;5PLUK;4eg PING;1PANTI LANTANG
    1PAMADA LANTANG;1B80:0SUNDANESE g PANYECEK;2PANGLAYAR;2PANGWISAD;1a A;2I;2U;2AE;2O;2E;2EU;2KA
    2QA;2GA;2je;2CA;2JA;2ZA;2kb;2TA;2DA;2NA;2PA;2FA;2VA;2BA;2MA;2YA;2RA;2LA;2WA;2SA;2XA;2HA
    1eq g PAMINGKAL;3PANYAKRA;3PANYIKU;1bm g PANGHULU;3PANYUKU;3PANAELAENG;3PANOLONG;3PAMEPET
    3PANEULEUNG;1g PAMAAEH;2el;1eq g PASANGAN MA;4WA;1a ke;2SYA;1bs dt;2br;2bj;2t;2at;2ay;2eu;2au
    2ar;2cj;1hw;1a REU;2LEU;2BHA;2n K;3M;0BATAK a A;2ir A;2HA;2ir HA;2MANDAILING HA;2BA;2KARO BA
    2PA;2ir PA;2NA;2MANDAILING NA;2WA;2ir WA;2PAKPAK WA;2GA;2ir GA;2JA;2DA;2RA;2ir RA;2MA;2ir MA
    2SOUTHERN TA;2NORTHERN TA;2SA;2ir SA;2MANDAILING SA;2YA;2ir YA;2je;2LA;2ir LA;2kb;2CA;2NDA;2MBA
    2I;2U;1g TOMPI;1bm g E;3PAKPAK E;3EE;3I;3KARO I;3O;3KARO O;3U;4FOR ir SA;1eq g NG;3H;1PANGOLAT
    1PANONGONAN;1BFC:1w BINDU NA METEK;3PINARBORAS;3JUDUL;3PANGOLAT;0LEPCHA a KA;2KLA;2ke;2GA;2GLA
    2je;2CA;2jy;2JA;2kb;2TA;2ks;2DA;2NA;2PA;2PLA;2PHA;2FA;2FLA;2BA;2BLA;2MA;2MLA;2TSA;2TSHA;2DZA
    2YA;2RA;2LA;2HA;2HLA;2VA;2SA;2jf;2WA;2A;1SUBJOINED a YA;3RA;1bm g AA;3I;3O;3OO;3U;3UU;3E
    1eq g K;3M;3L;3N;3P;3R;3T;3NYIN-DO;3KANG;1g RAN;2jk;1C3B:1bc TA-ROL;2NYET THYOOM TA-ROL;2CER-WA
    2TSHOOK CER-WA;2TSHOOK;1bs dt;2br;2bj;2t;2at;2ay;2eu;2au;2ar;2cj;1C4D:1a TTA;2il;2DDA
    0OL CHIKI bs dt;3br;3bj;3t;3at;3ay;3eu;3au;3ar;3cj;2a LA;3AT;3AG;3ANG;3AL;3LAA;3AAK;3AAJ;3AAM
    3AAW;3LI;3IS;3IH;3INY;3IR;3LU;3UC;3UD;3UNN;3UY;3LE;3EP;3EDD;3EN;3ERR;3LO;3OTT;3OB;3OV;3OH
    2MU TTUDDAG;2GAAHLAA TTUDDAAG;2MU-GAAHLAA TTUDDAAG;2RELAA;2PHAARKAA;2AHAD;2bc MUCAAD;3l MUCAAD
    0iv d a ROUNDED VE;3LONG-LEGGED DE;3NARROW O;3WIDE ES;3TALL TE;3THREE-LEGGED TE;3TALL HARD g
    4YAT;3UNBLENDED UK;1C90:0GEORGIAN MTAVRULI c a AN;4BAN;4GAN;4DON;4EN;4VIN;4ZEN;4TAN;4IN;4KAN
    4LAS;4MAN;4NAR;4ON;4PAR;4ZHAR;4RAE;4SAN;4TAR;4UN;4PHAR;4KHAR;4GHAN;4QAR;4lj;4CHIN;4CAN;4JIL
    4CIL;4CHAR;4XAN;4JHAN;4HAE;4HE;4HIE;4WE;4HAR;4HOE;4FI;4YN;4ELIFI;4bg GAN;4AIN;1CBD:4AEN;4HARD g
    4LABIAL g;0SUNDANESE bc BINDU SURYA;3PANGLONG;3PURNAMA;3CAKRA;3LEU SATANGA;3KA SATANGA
    3DA SATANGA;3BA SATANGA;1CD0:0VEDIC ef KARSHANA;2SHARA;2PRENKHA;1g NIHSHVASA
    2YAJURVEDIC MIDLINE SVARITA;1ef YAJURVEDIC AGGRAVATED kl SVARITA;3kl SVARITA
    3KATHAKA kl SVARITA;2ln m;2YAJURVEDIC KATHAKA kl SVARITA SCHROEDER;2l SVARITA;2dr SVARITA
    2KATHAKA ANUDATTA;2bx m;2bj cu m;2t cu m;2RIGVEDIC KASHMIRI kl SVARITA;2ATHARVAVEDIC kl SVARITA
    1g dx SVARITA;3UDATTA;2aq dx UDATTA;2dx ANUDATTA;2aq dx ANUDATTA;2dx UDATTA b gr;3ANUDATTA b gr
    2bv ANTARGOMUKHA;3BAHIRGOMUKHA;3VAMAGOMUKHA;4b gr;2TIRYAK;2HEXIFORM ej bv;2ej bv;2RTHANG ej bv
    2bv UBHAYATO MUKHA;2ARDHAVISARGA;2bp ARDHAVISARGA;1ef ln i;1g JIHVAMULIYA;2UPADHMANIYA
    2ATIKRAMA;1ef di i;2l di i;1g l bv ANTARGOMUKHA;1D00:0eo a d c A;4AE;1d a bg AE;1a d c BARRED B
    4C;4D;4ETH;4E;1d a bg eg E;4I;1a d c J;4K;4L b v;4M;4aq N;4O;4eg O;1d a SIDEWAYS O;4eg O;4O b v
    3bg OE;1a d c OU;1d a TOP cd O;3fy cd O;1a d c P;4aq R;4bg R;4T;4U;1d a SIDEWAYS U
    4DIAERESIZED U;4bg M;1a d c V;4W;4Z;4EZH;2VOICED LARYNGEAL SPIRANT;2AIN;0jg a d c kk;4LAMDA;4PI
    4RHO;4PSI;0iv a d c EL;0dy a c A;3AE;3B;3BARRED B;3D;3E;3aq E;3G;3H;3I;3J;3K;3L;3M;3N;3aq N;3O
    3OU;3P;3R;3T;3U;3W;2d A;3bg A;3hj;3bg AE;3B;3D;3E;3SCHWA;3eg E;3bg eg E;3G;3bg I;3K;3M;3ENG;3O
    3eg O;3TOP cd O;3fy cd O;3P;3T;3U;3SIDEWAYS U;3bg M;3V;3AIN;3BETA;3jg kk;3ll;3jg PHI;3CHI
    0eo SUBSCRIPT d a I;4R;4U;4V;0jg SUBSCRIPT d a BETA;4kk;4RHO;4PHI;4CHI;0eo d a UE;3B b ad bq
    3D b ad bq;3F b ad bq;3M b ad bq;3N b ad bq;3P b ad bq;3R b ad bq;5FISHHOOK p ad bq;3S b ad bq
    3T b ad bq;3Z b ad bq;3bg G;0dy a iv EN;0eo d a ie G;3TH b STRIKETHROUGH;2c a I b v;2a kp b v
    3P b v;2c a U b v;2a fo b v;3B b fi av;3D b fi av;3F b fi av;3G b fi av;3K b fi av;3L b fi av
    3M b fi av;3N b fi av;3P b fi av;3R b fi av;3S b fi av;3ESH b fi av;3V b fi av;3X b fi av
    3Z b fi av;3A b ca av;3hj b ca av;3D b av p gr;3E b ca av;3eg E b ca av;3aq eg E b ca av
    3SCHWA b ca av;3I b ca av;3eg O b ca av;3ESH b ca av;3U b ca av;3EZH b ca av;0dy a d bg hj;3C
    4b CURL;3ETH;3aq eg E;3F;3ka J b v;3hk G;3bg H;3I b v;3kp;3c I;5b v;3J b iq;3L b ca av;5fi av
    3c L;3M b av;3bg M b ej LEG;3N b o av;5ca av;3c N;3BARRED O;3PHI;3S b av;3ESH;3T b fi av;3U fc
    3fo;3c U;3V b av;3bg V;3Z;4b ca av;5CURL;3EZH;3jh;0ck ez df ev;2cb ev;1SNAKE m;1SUSPENSION ai
    1MACRON-ACUTE;1GRAVE-MACRON;1MACRON-GRAVE;1ACUTE-MACRON;1GRAVE-ACUTE-GRAVE;1ACUTE-GRAVE-ACUTE
    1eo d a R m;1BREVE-MACRON;1MACRON-BREVE;1l af i;1lm i;1ZIGZAG m;1IS m;1UR i;1US i
    1eo d a FLATTENED eg A i;4AE;4AO;4AV;4C fh;4ie D;4ETH;4G;2a d c G;2d a K;4L;2a d c L;5M;2d a N
    2a d c N;5R;2d a R ROTUNDA;4S;4ej S;4Z;4hj;4B;4BETA;4SCHWA;4F;4L b l ad bq
    4O b bn CENTRALIZATION v;4P;4ESH;4U b bn CENTRALIZATION v;4W;4A b ak;4O b ak;4U b ak;1UP jx i
    1KAVYKA i h;3o;1bx i o;1WIDE ba BRIDGE m;1bx m o;1DELETION ai;1l ba ed m;1kq bk TO m;1o am i
    1h am p ce am m;0eo c a A b di m;1d a A b di m;1c a B b bx i;1d a B b bx i;1c a B b bx m
    1d a B b bx m;1c a B b ey m;1d a B b ey m;1c a C b fh p cb;1d a C b fh p cb;1c a D b bx i
    1d a D b bx i;1c a D b bx m;1d a D b bx m;1c a D b ey m;1d a D b ey m;1c a D b fh;1d a D b fh
    1c a D b af m;1d a D b af m;1c a E b cp p df;1d a E b cp p df;1c a E b cp p cb;1d a E b cp p cb
    1c a E b af m;1d a E b af m;1c a E b bq m;1d a E b bq m;1c a E b fh p ed;1d a E b fh p ed
    1c a F b bx i;1d a F b bx i;1c a G b cp;1d a G b cp;1c a H b bx i;1d a H b bx i;1c a H b bx m
    1d a H b bx m;1c a H b ak;1d a H b ak;1c a H b fh;1d a H b fh;1c a H b ed m;1d a H b ed m
    1c a I b bq m;1d a I b bq m;1c a I b ak p cb;1d a I b ak p cb;1c a K b cb;1d a K b cb
    1c a K b bx m;1d a K b bx m;1c a K b ey m;1d a K b ey m;1c a L b bx m;1d a L b bx m
    1c a L b bx m p cp;1d a L b bx m p cp;1c a L b ey m;1d a L b ey m;1c a L b af m;1d a L b af m
    1c a M b cb;1d a M b cb;1c a M b bx i;1d a M b bx i;1c a M b bx m;1d a M b bx m;1c a N b bx i
    1d a N b bx i;1c a N b bx m;1d a N b bx m;1c a N b ey m;1d a N b ey m;1c a N b af m
    1d a N b af m;1c a O b bq p cb;1d a O b bq p cb;1c a O b bq p ak;1d a O b bq p ak
    1c a O b cp p df;1d a O b cp p df;1c a O b cp p cb;1d a O b cp p cb;1c a P b cb;1d a P b cb
    1c a P b bx i;1d a P b bx i;1c a R b bx i;1d a R b bx i;1c a R b bx m;1d a R b bx m
    1c a R b bx m p cp;1d a R b bx m p cp;1c a R b ey m;1d a R b ey m;1c a S b bx i;1d a S b bx i
    1c a S b bx m;1d a S b bx m;1c a S b cb p bx i;1d a S b cb p bx i;1c a S b ft p bx i
    1d a S b ft p bx i;1c a S b bx m p bx i;1d a S b bx m p bx i;1c a T b bx i;1d a T b bx i
    1c a T b bx m;1d a T b bx m;1c a T b ey m;1d a T b ey m;1c a T b af m;1d a T b af m
    1c a U b ak m;1d a U b ak m;1c a U b bq m;1d a U b bq m;1c a U b af m;1d a U b af m
    1c a U b bq p cb;1d a U b bq p cb;1c a U b cp p ak;1d a U b cp p ak;1c a V b bq;1d a V b bq
    1c a V b bx m;1d a V b bx m;1c a W b df;1d a W b df;1c a W b cb;1d a W b cb;1c a W b ak
    1d a W b ak;1c a W b bx i;1d a W b bx i;1c a W b bx m;1d a W b bx m;1c a X b bx i;1d a X b bx i
    1c a X b ak;1d a X b ak;1c a Y b bx i;1d a Y b bx i;1c a Z b af;1d a Z b af;1c a Z b bx m
    1d a Z b bx m;1c a Z b ey m;1d a Z b ey m;3H b ey m;3T b ak;3W b di i;3Y b di i;3A b h cd di
    3ej S b bx i;6cm v;6ew v;1c a SHARP S;1d a ll;1c a A b bx m;1d a A b bx m;1c a A b av i
    1d a A b av i;1c a A b af p cb;1d a A b af p cb;1c a A b af p df;1d a A b af p df
    1c a A b af p av i;1d a A b af p av i;1c a A b af p bq;1d a A b af p bq;1c a A b af p bx m
    1d a A b af p bx m;1c a A b ed p cb;1d a A b ed p cb;1c a A b ed p df;1d a A b ed p df
    1c a A b ed p av i;1d a A b ed p av i;1c a A b ed p bq;1d a A b ed p bq;1c a A b ed p bx m
    1d a A b ed p bx m;1c a E b bx m;1d a E b bx m;1c a E b av i;1d a E b av i;1c a E b bq
    1d a E b bq;1c a E b af p cb;1d a E b af p cb;1c a E b af p df;1d a E b af p df
    1c a E b af p av i;1d a E b af p av i;1c a E b af p bq;1d a E b af p bq;1c a E b af p bx m
    1d a E b af p bx m;1c a I b av i;1d a I b av i;1c a I b bx m;1d a I b bx m;1c a O b bx m
    1d a O b bx m;1c a O b av i;1d a O b av i;1c a O b af p cb;1d a O b af p cb;1c a O b af p df
    1d a O b af p df;1c a O b af p av i;1d a O b af p av i;1c a O b af p bq;1d a O b af p bq
    1c a O b af p bx m;1d a O b af p bx m;1c a O b jw p cb;1d a O b jw p cb;1c a O b jw p df
    1d a O b jw p df;1c a O b jw p av i;1d a O b jw p av i;1c a O b jw p bq;1d a O b jw p bq
    1c a O b jw p bx m;1d a O b jw p bx m;1c a U b bx m;1d a U b bx m;1c a U b av i;1d a U b av i
    1c a U b jw p cb;1d a U b jw p cb;1c a U b jw p df;1d a U b jw p df;1c a U b jw p av i
    1d a U b jw p av i;1c a U b jw p bq;1d a U b jw p bq;1c a U b jw p bx m;1d a U b jw p bx m
    1c a Y b df;1d a Y b df;1c a Y b bx m;1d a Y b bx m;1c a Y b av i;1d a Y b av i;1c a Y b bq
    1d a Y b bq;1c a MIDDLE-WELSH LL;1d a MIDDLE-WELSH LL;1c a MIDDLE-WELSH V;1d a MIDDLE-WELSH V
    1c a Y b LOOP;1d a Y b LOOP;0jg d a hj b cx;5cw;5cx p dp;5cw p dp;5cx p gb;5cw p gb;5cx p az
    5cw p az;1c a hj b cx;5cw;5cx p dp;5cw p dp;5cx p gb;5cw p gb;5cx p az;5cw p az;1d a fx b cx
    5cw;5cx p dp;5cw p dp;5cx p gb;5cw p gb;1F18:1c a fx b cx;5cw;5cx p dp;5cw p dp;5cx p gb
    5cw p gb;1F20:1d a ETA b cx;5cw;5cx p dp;5cw p dp;5cx p gb;5cw p gb;5cx p az;5cw p az
    1c a ETA b cx;5cw;5cx p dp;5cw p dp;5cx p gb;5cw p gb;5cx p az;5cw p az;1d a kp b cx;5cw
    5cx p dp;5cw p dp;5cx p gb;5cw p gb;5cx p az;5cw p az;1c a kp b cx;5cw;5cx p dp;5cw p dp
    5cx p gb;5cw p gb;5cx p az;5cw p az;1d a id b cx;5cw;5cx p dp;5cw p dp;5cx p gb;5cw p gb
    1F48:1c a id b cx;5cw;5cx p dp;5cw p dp;5cx p gb;5cw p gb;1F50:1d a fo b cx;5cw;5cx p dp
    5cw p dp;5cx p gb;5cw p gb;5cx p az;5cw p az;1F59:1c a fo b cw;1F5B:6p dp;1F5D:7gb;1F5F:7az
    1d a gm b cx;5cw;5cx p dp;5cw p dp;5cx p gb;5cw p gb;5cx p az;5cw p az;1c a gm b cx;5cw
    5cx p dp;5cw p dp;5cx p gb;5cw p gb;5cx p az;5cw p az;1d a hj b dp;5gb;3fx b dp;5gb;3ETA b dp
    5gb;3kp b dp;5gb;3id b dp;5gb;3fo b dp;5gb;3gm b dp;5gb;1F80:3hj b cx p ax;5cw p ax
    5cx p dp p ax;5cw p dp p ax;5cx p gb p ax;5cw p gb p ax;5cx p az p ax;5cw p az p ax
    1c a hj b cx p bh;5cw p bh;5cx p dp p bh;5cw p dp p bh;5cx p gb p bh;5cw p gb p bh
    5cx p az p bh;5cw p az p bh;1d a ETA b cx p ax;5cw p ax;5cx p dp p ax;5cw p dp p ax
    5cx p gb p ax;5cw p gb p ax;5cx p az p ax;5cw p az p ax;1c a ETA b cx p bh;5cw p bh
    5cx p dp p bh;5cw p dp p bh;5cx p gb p bh;5cw p gb p bh;5cx p az p bh;5cw p az p bh
    1d a gm b cx p ax;5cw p ax;5cx p dp p ax;5cw p dp p ax;5cx p gb p ax;5cw p gb p ax
    5cx p az p ax;5cw p az p ax;1c a gm b cx p bh;5cw p bh;5cx p dp p bh;5cw p dp p bh
    5cx p gb p bh;5cw p gb p bh;5cx p az p bh;5cw p az p bh;1d a hj b VRACHY;5cp;5dp p ax;5ax
    5gb p ax;1FB6:5az;6p ax;1c a hj b VRACHY;5cp;5dp;5gb;5bh;1KORONIS;1bh;1cx;1az;1hr p az
    1d a ETA b dp p ax;5ax;5gb p ax;1FC6:5az;6p ax;1c a fx b dp;5gb;3ETA b dp;5gb;5bh;1cx p dp;3gb
    3az;1d a kp b VRACHY;5cp;5hr p dp;7gb;1FD6:5az;5hr p az;1c a kp b VRACHY;5cp;5dp;5gb
    1FDD:1cw p dp;3gb;3az;1d a fo b VRACHY;5cp;5hr p dp;7gb;3RHO b cx;5cw;3fo b az;5hr p az
    1c a fo b VRACHY;5cp;5dp;5gb;3RHO b cw;1hr p dp;3gb;1dp;1FF2:1d a gm b dp p ax;5ax;5gb p ax
    1FF6:5az;6p ax;1c a id b dp;5gb;3gm b dp;5gb;5bh;1gb;1cw"

end Laminar.Text
