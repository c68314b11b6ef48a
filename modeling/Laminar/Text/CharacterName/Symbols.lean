/-!
# Names of characters: symbols

The names of punctuation and symbols, U+2000 to U+2E7F (Unicode 14).  `CharacterName` says how
the table is read.
-/

namespace Laminar.Text

/-- Names of punctuation and symbols, U+2000 to U+2E7F. -/
def symbolNames : String :=
  "2000:0EN QUAD;0EM QUAD;0EN kj;0EM kj;0THREE-PER-EM kj;0FOUR-PER-EM kj;0SIX-PER-EM kj;0FIGURE kj
    0bc kj;0THIN kj;0HAIR kj;0dt WIDTH kj;2NON-JOINER;2JOINER;0LEFT-TO-RIGHT ai;0RIGHT-TO-LEFT ai
    0HYPHEN;0NON-BREAKING HYPHEN;0FIGURE im;0EN im;0EM im;0x fc;0l q ey;1ho ey;0o bw dh ai
    0h bw dh ai;0bw LOW-9 dh ai;1HIGH-REVERSED-9 dh ai;0o l dh ai;0h l dh ai;0l LOW-9 dh ai
    1HIGH-REVERSED-9 dh ai;0DAGGER;0l DAGGER;0BULLET;0ee BULLET;0br bx LEADER;0bj bx LEADER
    0x ELLIPSIS;0HYPHENATION POINT;0ey dc;0PARAGRAPH dc;0LEFT-TO-RIGHT EMBEDDING
    0RIGHT-TO-LEFT EMBEDDING;0POP DIRECTIONAL FORMATTING;0LEFT-TO-RIGHT OVERRIDE
    0RIGHT-TO-LEFT OVERRIDE;0NARROW NO-BREAK kj;0PER MILLE g;1io ac g;0PRIME;0l PRIME;0dr PRIME
    0aq PRIME;1l PRIME;1dr PRIME;0CARET;0bw de ep dh ai;1cc ep dh ai;0REFERENCE ai;0l cy ai
    0INTERROBANG;0OVERLINE;0UNDERTIE;0gz TIE;0CARET INSERTION POINT;0ASTERISM;0HYPHEN BULLET
    0gq SLASH;0o an ae b QUILL;0h an ae b QUILL;0l ec ai;0ec cy ai;0cy ec ai;0TIRONIAN g ET
    0aq PILCROW g;0y r BULLET;1k BULLET;0ho ch;0aq iz;0CLOSE UP;0bj ASTERISKS ALIGNED VERTICALLY
    0COMMERCIAL MINUS g;0SWUNG im;0ba UNDERTIE;0FLOWER bc ai;0t bx bc;0jr PRIME;0at bx bc;0ay bx bc
    0bj bx bc;0at bx ai;0ez fr;0TRICOLON;0q at cu;0bd MATHEMATICAL kj;0WORD JOINER
    0FUNCTION APPLICATION;0INVISIBLE as;1dc;1by;2066:0LEFT-TO-RIGHT ISOLATE;0RIGHT-TO-LEFT ISOLATE
    0FIRST STRONG ISOLATE;0POP DIRECTIONAL ISOLATE;0INHIBIT SYMMETRIC SWAPPING
    0ACTIVATE SYMMETRIC SWAPPING;0INHIBIT ji e SHAPING;0ACTIVATE ji e SHAPING;0NATIONAL bs SHAPES
    0NOMINAL bs SHAPES;0gp dt;1eo d a I;2074:1at;1ay;1eu;1au;1ar;1cj;1by g;1MINUS;1fm g;1o be;1h be
    1eo d a N;0SUBSCRIPT dt;1br;1bj;1t;1at;1ay;1eu;1au;1ar;1cj;1by g;1MINUS;1fm g;1o be;1h be
    2090:0eo SUBSCRIPT d a A;4E;4O;4X;4SCHWA;4H;4K;4L;4M;4N;4P;4S;4T;20A0:0EURO-CURRENCY g;0hp g
    0CRUZEIRO g;0FRENCH FRANC g;0LIRA g;0MILL g;0NAIRA g;0PESETA g;0RUPEE g;0WON g;0NEW SHEQEL g
    0DONG g;0EURO g;0KIP g;0TUGRIK g;0DRACHMA g;0GERMAN PENNY g;0PESO g;0GUARANI g;0AUSTRAL g
    0HRYVNIA g;0CEDI g;0LIVRE TOURNOIS g;0SPESMILO g;0TENGE g;0INDIAN RUPEE g;0TURKISH LIRA g
    0NORDIC ai g;0MANAT g;0RUBLE g;0LARI g;0BITCOIN g;0SOM g;20D0:0ck o cf i;1h cf i;1ej q ey gn
    1es q ey gn;1dn f i;1ii f i;1o f i;1h f i;1di gn;1ii di gn;1dn di gn;1t cu i;1at cu i
    1ENCLOSING ao;2an;2dk;2ao BACKSLASH;1o h f i;1ENCLOSING SCREEN;2KEYCAP;2UPWARD bb ah;1gx gh gn
    1l q v gn;1ANNUITY w;1dr UNDERDOT;1WIDE BRIDGE i;1r f gn;1ej l gh gn;1k cf b dm aa
    1r cf b dm aa;1o f m;1h f m;1ch i;2100:0ACCOUNT OF;0ADDRESSED TO THE SUBJECT;0go c C
    0DEGREE CELSIUS;0da ey w;0CARE OF;0CADA UNA;0EULER CONSTANT;0SCRUPLE;0DEGREE FAHRENHEIT;0hk d G
    1c H;0BLACK-LETTER c H;0go c H;0PLANCK CONSTANT;2cv bj PI;0hk c I;0BLACK-LETTER c I;0hk c L
    1d L;0L B fc w;0go c N;0NUMERO g;0SOUND RECORDING COPYRIGHT;0hk c P;0go c P;2Q;0hk c R
    0BLACK-LETTER c R;0go c R;0PRESCRIPTION TAKE;0RESPONSE;0SERVICE ai;0ja g;0TRADE ai g;0VERSICLE
    0go c Z;0OUNCE g;0OHM g;0ba OHM g;0BLACK-LETTER c Z;0bg jg d a kp;0KELVIN g;0ANGSTROM g;0hk c B
    0BLACK-LETTER c C;0ESTIMATED w;0hk d E;1c E;2F;0bg c F;0hk c M;1d O;0db w;0BET w;0GIMEL w
    0DALET w;0INFORMATION SOURCE;0bp c Q;0FACSIMILE g;0go d PI;2kk;1c kk;2PI;1N-ARY SUMMATION
    0bg dv c G;3L;0aq dv c L;0bg dv c Y;0go ITALIC c D;2d D;3E;3I;3J;0PROPERTY ey;0bg AMPERSAND
    0PER g;0AKTIESELSKAB;0bg d F;0w FOR SAMARITAN SOURCE;0VULGAR gq br SEVENTH;3NINTH;3TENTH;3THIRD
    2bj THIRDS;2br FIFTH;2bj FIFTHS;2t FIFTHS;2at FIFTHS;2br SIXTH;2ay SIXTHS;2br hd;2t js;2ay js
    2au js;0gq NUMERATOR br;0ROMAN NUMERAL br;2bj;2t;2at;2ay;2eu;2au;2ar;2cj;2io;2ELEVEN;2TWELVE
    2hn;2br ab;2ay ab;2br ac;0d ROMAN NUMERAL br;3bj;3t;3at;3ay;3eu;3au;3ar;3cj;3io;3ELEVEN;3TWELVE
    3hn;3br ab;3ay ab;3br ac;0ROMAN NUMERAL br ac C D;2ay ac;2io ac;2aq br ab;0eo d a aq C
    0ROMAN NUMERAL eu LATE e;2hn EARLY e;3ac;2br ab ac;0VULGAR gq dt THIRDS;0bg bs bj;2t;2190:0r f
    0ap f;0k f;0aa f;0o h f;0UP ce f;0fg gw f;1fz f;0fu fz f;1gw f;0r f b v;0k f b v;0r WAVE f
    0k WAVE f;0r bj HEADED f;0ap bj HEADED f;0k bj HEADED f;0aa bj HEADED f;0r f b gr;0k f b gr
    0r f ku fc;0ap f ku fc;0k f ku fc;0aa f ku fc;0UP ce f b BASE;0r f b av;0k f b av;0r f b LOOP
    0k f b LOOP;0o h WAVE f;2f b v;0aa ZIGZAG f;0ap f b TIP r;4k;0aa f b TIP r;4k;0k f b ga aa
    0aa f b ga r;0dn TOP SEMICIRCLE f;0ii TOP SEMICIRCLE f;0fg gw f TO ej fc
    0r f TO fc cv k f TO fc;0dn eg ao f;0ii eg ao f;0r cf b dm ap;4aa;0ap cf b dm k;4r
    0k cf b dm ap;4aa;0aa cf b dm k;4r;0k f cv r f;0ap f r OF aa f;0r f cv k f;1PAIRED kv
    0ap PAIRED kv;0k PAIRED kv;0aa PAIRED kv;0r cf cv k cf;0k cf cv r cf;0r l f b v;0o h l f b v
    0k l f b v;0r l f;0ap l f;0k l f;0aa l f;0o h l f;0UP ce l f;0fg gw l f;1fz l f;0fu fz l f
    1gw l f;0r dr f;0k dr f;0r SQUIGGLE f;0k SQUIGGLE f;0ap f b l v;0aa f b l v;0r DASHED f
    0ap DASHED f;0k DASHED f;0aa DASHED f;0r f TO fc;0k f TO fc;0r z f;0ap z f;0k z f;0aa z f
    0ap z f ku fc;3ON PEDESTAL;5b x fc;6q fc;2l f;4ON PEDESTAL;0k z f ku WALL;0fg gw f TO ga
    0fu fz f TO ga;0UP ce z f;0h f b d ao;0aa f r OF ap f;0t k kv;0r f b q v;0k f b q v
    0o h f b q v;0r f b l q v;0k f b l q v;0o h f b l q v;0r OPEN-HEADED f;0k OPEN-HEADED f
    0o h OPEN-HEADED f;0FOR ALL;0COMPLEMENT;0PARTIAL DIFFERENTIAL;0THERE EXISTS;1DOES li EXIST
    0EMPTY SET;0INCREMENT;0NABLA;0ELEMENT OF;0li AN ELEMENT OF;0d ELEMENT OF;0CONTAINS AS MEMBER
    0DOES li CONTAIN AS MEMBER;0d CONTAINS AS MEMBER;0END OF PROOF;0N-ARY kw;1COPRODUCT;1SUMMATION
    0MINUS g;0MINUS-OR-PLUS g;0bx by;0DIVISION SLASH;0SET MINUS;0ch co;0di co;0BULLET co;0an ROOT
    0CUBE ROOT;0FOURTH ROOT;0PROPORTIONAL TO;0INFINITY;0h ep;0ep;0MEASURED ep;0SPHERICAL ep
    0DIVIDES;0DOES li DIVIDE;0PARALLEL TO;0li PARALLEL TO;0kx p;1OR;0en;0UNION;0gs;0l gs;0dr gs
    0CONTOUR gs;0SURFACE gs;0VOLUME gs;0ii gs;1CONTOUR gs;0dn CONTOUR gs;0THEREFORE;0BECAUSE;0RATIO
    0PROPORTION;0bx MINUS;0EXCESS;0GEOMETRIC PROPORTION;0HOMOTHETIC;0bq co;0aq bq;0ba LAZY S
    0SINE WAVE;0WREATH kw;0li bq;0MINUS bq;0ASYMPTOTICALLY bk TO;0li ASYMPTOTICALLY bk TO
    0APPROXIMATELY bk TO;1BUT li ACTUALLY bk TO;0NEITHER APPROXIMATELY NOR ACTUALLY bk TO;0kq bk TO
    0li kq bk TO;0kq bk OR bk TO;0dr bq;0ALL bk TO;0gk TO;0GEOMETRICALLY gk TO;0DIFFERENCE is
    0APPROACHES THE LIMIT;0GEOMETRICALLY bk TO;0APPROXIMATELY bk TO OR THE IMAGE OF
    0IMAGE OF OR APPROXIMATELY bk TO;0hp fm;0fm hp;0di IN bk TO;1bk TO;0CORRESPONDS TO;0ESTIMATES
    0EQUIANGULAR TO;0gg fm;0ll bk TO;0bk TO BY DEFINITION;0MEASURED BY;0QUESTIONED bk TO;0li bk TO
    0IDENTICAL TO;0li IDENTICAL TO;0STRICTLY gk TO;0aw OR bk TO;0aj OR bk TO;0aw cv bk TO
    0aj cv bk TO;0aw BUT li bk TO;0aj BUT li bk TO;0MUCH aw;1aj;0is;0li gk TO;1aw;1aj
    0NEITHER aw NOR bk TO;1aj NOR bk TO;0aw OR gk TO;0aj OR gk TO;0NEITHER aw NOR gk TO
    1aj NOR gk TO;0aw OR aj;0aj OR aw;0NEITHER aw NOR aj;1aj NOR aw;0jn;0jo;0jn OR bk TO
    0jo OR bk TO;0jn OR gk TO;0jo OR gk TO;0DOES li PRECEDE;2SUCCEED;0hi OF;0fl OF;0li A hi OF
    2fl OF;0hi OF OR bk TO;0fl OF OR bk TO;0NEITHER A hi OF NOR bk TO;2fl OF NOR bk TO
    0hi OF b li bk TO;0fl OF b li bk TO;0MULTISET;1gd;1UNION;0an IMAGE OF;1ORIGINAL OF
    1IMAGE OF OR bk TO;1ORIGINAL OF OR bk TO;1CAP;1CUP;0cl by;1MINUS;1as;1DIVISION SLASH;1bx co
    1di co;1ch co;1fm;1im;0eb by;1MINUS;1as;1bx co;0h jx;0o jx;0ce jx;0UP jx;0ASSERTION;0MODELS
    0TRUE;0FORCES;0dr q fc h TURNSTILE;0l q fc l h TURNSTILE;0DOES li PROVE;0li TRUE;0DOES li FORCE
    0NEGATED l q fc l h TURNSTILE;0jn UNDER RELATION;0jo UNDER RELATION;0NORMAL SUBGROUP OF
    0CONTAINS AS NORMAL SUBGROUP;0NORMAL SUBGROUP OF OR bk TO;0CONTAINS AS NORMAL SUBGROUP OR bk TO
    0ORIGINAL OF;0IMAGE OF;0MULTIMAP;0HERMITIAN CONJUGATE MATRIX;0INTERCALATE;0XOR;0NAND;0NOR
    0h ep b ARC;1ah;0N-ARY kx p;2OR;1en;1UNION;0dk co;0bx co;0gg co;0DIVISION as;0BOWTIE
    0o NORMAL FACTOR SEMIDIRECT kw;0h NORMAL FACTOR SEMIDIRECT kw;0o SEMIDIRECT kw;0h SEMIDIRECT kw
    0aq bq fm;0jc kx OR;2p;0l hi;1fl;1en;1UNION;0PITCHFORK;0bk p PARALLEL TO;0aw b bx;0aj b bx
    0VERY MUCH aw;2aj;0aw bk TO OR aj;0aj bk TO OR aw;0bk TO OR aw;3aj;3jn;3jo
    0DOES li PRECEDE OR bk;2SUCCEED OR bk;0li an IMAGE OF OR bk TO;2ORIGINAL OF OR bk TO
    0an IMAGE OF OR li bk TO;1ORIGINAL OF OR li bk TO;0aw BUT li gk TO;0aj BUT li gk TO
    0jn BUT li gk TO;0jo BUT li gk TO;0li NORMAL SUBGROUP OF;0DOES li CONTAIN AS NORMAL SUBGROUP
    0li NORMAL SUBGROUP OF OR bk TO;0DOES li CONTAIN AS NORMAL SUBGROUP OR bk;0q ELLIPSIS
    0MIDLINE x ELLIPSIS;0UP h cm ELLIPSIS;0ce h cm ELLIPSIS;0ELEMENT OF b ej x v
    3q fc AT END OF x v;0d ELEMENT OF b q fc AT END OF x v;0ELEMENT OF b bx i;3ky
    0d ELEMENT OF b ky;0ELEMENT OF b fd;3bj x STROKES;0CONTAINS b ej x v;2q fc AT END OF x v
    0d CONTAINS b q fc AT END OF x v;0CONTAINS b ky;0d CONTAINS b ky;0Z NOTATION BAG MEMBERSHIP
    0DIAMETER g;0ELECTRIC f;0HOUSE;0UP am;0ce am;0PROJECTIVE;0PERSPECTIVE;0WAVY ey;0o CEILING
    0h CEILING;0o FLOOR;0h FLOOR;0fy h CROP;1o CROP;0TOP h CROP;1o CROP;0aq li g;0an kz;0ARC
    0SEGMENT;0SECTOR;0ja RECORDER;0POSITION INDICATOR;0VIEWDATA an;0PLACE OF INTEREST g;0bg li g
    0WATCH;0HOURGLASS;0TOP o ga;1h ga;0fy o ga;1h ga;0TOP cd gs;0fy cd gs;0FROWN;0SMILE
    0UP am is bj x BARS;0OPTION KEY;0ERASE TO THE h;0X IN A RECTANGLE BOX;0KEYBOARD;0de ep ae
    0cc ep ae;0ERASE TO THE o;0BENZENE di;0CYLINDRICITY;0ALL AROUND-PROFILE;0SYMMETRY;0TOTAL RUNOUT
    0DIMENSION ORIGIN;0CONICAL TAPER;0SLOPE;0COUNTERBORE;0COUNTERSINK;0APL FUNCTIONAL w I-BEAM
    3SQUISH QUAD;3QUAD bk;4DIVIDE;4dk;4JOT;4ao;3ao STILE;4JOT;3SLASH fc;3BACKSLASH fc;3QUAD SLASH
    4BACKSLASH;4aw;4aj;3r VANE;3k VANE;3QUAD r f;4k f;3ao BACKSLASH;3ce jx fd;3ll STILE
    3QUAD ce CARET;4ll;3ce jx JOT;3ap VANE;3QUAD ap f;3UP jx ky;3DEL STILE;3QUAD UP CARET;4DEL
    3UP jx JOT;3aa VANE;3QUAD aa f;3QUOTE fd;3ll fd;3dk fd;3JOT fd;3ao fd;3UP SHOE JOT;3QUOTE QUAD
    3ao gg;3QUAD hp;3UP jx ak;3DEL ak;3gg ak;3JOT ak;3ao ak;3ce SHOE STILE;3o SHOE STILE;3bq ak
    3aj ak;3dq fc;3DEL bq;3ZILDE;3STILE bq;3iz fd;3QUAD li bk;4ec;3ce CARET bq;3UP CARET bq;3kp
    3RHO;3gm;3hj fd;3fx fd;3kp fd;3gm fd;3hj;0li CHECK ai;0h ep b aa ZIGZAG f;0SHOULDERED eg BOX
    0BELL w;0q ey b ad bx;0INSERTION w;0CONTINUOUS UNDERLINE w;0DISCONTINUOUS UNDERLINE w
    0EMPHASIS w;0COMPOSITION w;0z an b da q ey;0ENTER w;0ALTERNATIVE KEY w;0HELM w;0cl x fc b NOTCH
    1ah ce;0BROKEN ao b NORTHWEST f;0UNDO w;0MONOSTABLE w;0HYSTERESIS w
    0OPEN-CIRCUIT-OUTPUT H-TYPE w;1L-TYPE w;0PASSIVE-PULL-DOWN-OUTPUT w;0PASSIVE-PULL-UP-OUTPUT w
    0DIRECT CURRENT w e bj;0SOFTWARE-FUNCTION w;0APL FUNCTIONAL w QUAD;0DECIMAL dc KEY w
    0PREVIOUS PAGE;0NEXT PAGE;0PRINT SCREEN w;0CLEAR SCREEN w;0o be cr av;2EXTENSION;2bt av
    0h be cr av;2EXTENSION;2bt av;0o an ae cr ga;3EXTENSION;3bt ga;0h an ae cr ga;3EXTENSION;3bt ga
    0o jc ae cr av;3ad PIECE;3bt av;0jc ae EXTENSION;0h jc ae cr av;3ad PIECE;3bt av;0gs EXTENSION
    0x ey EXTENSION;0cr o OR bt h jc ae gi;1h OR bt o jc ae gi;0SUMMATION TOP;1fy;0TOP an ae
    0fy an ae;3cv TOP an ae;0RADICAL w fy;0o q BOX ey;0h q BOX ey;0x SCAN LINE-1;2LINE-3;2LINE-7
    2LINE-9;0DENTISTRY w bn q p TOP h;5fy h;4b ao;3ce p x b ao;3UP p x b ao;3q b ah;3ce p x b ah
    3UP p x b ah;3q p WAVE;3ce p x b WAVE;3UP p x b WAVE;3ce p x;3UP p x;3q p TOP o;5fy o;0an FOOT
    0RETURN w;0EJECT w;0q ey EXTENSION;0METRICAL ed;1ej cv es;1es cv ej;1ej cv bj SHORTS
    1bj SHORTS cv ej;3JOINED;1TRISEME;1TETRASEME;1PENTASEME;0EARTH GROUND;0FUSE;0TOP be;0fy be
    0TOP jc ae;0fy jc ae;0TOP hg jt ae;0fy hg jt ae;0z TRAPEZIUM;0BENZENE di b ao;0STRAIGHTNESS
    0FLATNESS;0AC CURRENT;0ELECTRICAL en;0DECIMAL EXPONENT w;0y cc l ah;1de l ah;1gf l ah;1gc l ah
    1cc l ah b q fc;1de l ah b q fc;1cc ah b l q fc;0ALARM CLOCK;0STOPWATCH;0TIMER CLOCK
    0HOURGLASS b FLOWING SAND;0y bd de ah;2cc ah;2gf ah;2gc ah;0l q fc;0y an FOR fb;1ao FOR RECORD
    0POWER w;1ON-OFF w;1ON w;1SLEEP w;0OBSERVER EYE w;0w FOR NULL;2START OF HEADING;4TEXT
    2END OF TEXT;4TRANSMISSION;2ENQUIRY;2ACKNOWLEDGE;2BELL;2BACKSPACE;2x ia;2ey FEED;2q ia;2e FEED
    2CARRIAGE RETURN;2SHIFT OUT;3IN;2DATA LINK ESCAPE;2DEVICE CONTROL br;4bj;4t;4at;2hx ACKNOWLEDGE
    2SYNCHRONOUS IDLE;2END OF TRANSMISSION du;2CANCEL;2END OF bd;2SUBSTITUTE;2ESCAPE;2FILE dc
    2GROUP dc;2RECORD dc;2UNIT dc;2kj;2DELETE;0BLANK w;0eg BOX;0w FOR NEWLINE;2DELETE e bj
    2SUBSTITUTE e bj;2440:0OCR av;1CHAIR;1FORK;1ba FORK;1BELT BUCKLE;1BOW TIE
    1BRANCH BANK IDENTIFICATION;1AMOUNT OF CHECK;1im;1CUSTOMER ACCOUNT cq;1l BACKSLASH
    2460:0cl bs br;2bj;2t;2at;2ay;2eu;2au;2ar;2cj;1cq io;2ELEVEN;2TWELVE;2THIRTEEN;2FOURTEEN
    2FIFTEEN;2SIXTEEN;2SEVENTEEN;2EIGHTEEN;2NINETEEN;2em;0PARENTHESIZED bs br;2bj;2t;2at;2ay;2eu
    2au;2ar;2cj;1cq io;2ELEVEN;2TWELVE;2THIRTEEN;2FOURTEEN;2FIFTEEN;2SIXTEEN;2SEVENTEEN;2EIGHTEEN
    2NINETEEN;2em;0bs br hf fb;1bj hf fb;1t hf fb;1at hf fb;1ay hf fb;1eu hf fb;1au hf fb;1ar hf fb
    1cj hf fb;0cq io hf fb;1ELEVEN hf fb;1TWELVE hf fb;1THIRTEEN hf fb;1FOURTEEN hf fb
    1FIFTEEN hf fb;1SIXTEEN hf fb;1SEVENTEEN hf fb;1EIGHTEEN hf fb;1NINETEEN hf fb;1em hf fb
    0PARENTHESIZED eo d a A;4B;4C;4D;4E;4F;4G;4H;4I;4J;4K;4L;4M;4N;4O;4P;4Q;4R;4S;4T;4U;4V;4W;4X;4Y
    4Z;0cl eo c a A;4B;4C;4D;4E;4F;4G;4H;4I;4J;4K;4L;4M;4N;4O;4P;4Q;4R;4S;4T;4U;4V;4W;4X;4Y;4Z
    2d a A;4B;4C;4D;4E;4F;4G;4H;4I;4J;4K;4L;4M;4N;4O;4P;4Q;4R;4S;4T;4U;4V;4W;4X;4Y;4Z;1bs dt
    0hx cl cq ELEVEN;3TWELVE;3THIRTEEN;3FOURTEEN;3FIFTEEN;3SIXTEEN;3SEVENTEEN;3EIGHTEEN;3NINETEEN
    3em;0l cl bs br;3bj;3t;3at;3ay;3eu;3au;3ar;3cj;2cq io;0hx cl bs dt;0BOX DRAWINGS bn x;2al x
    2bn q;2al q;2bn dr im x;2al dr im x;2bn dr im q;2al dr im q;2bn jr im x;2al jr im x;2bn jr im q
    2al jr im q;2bn ce p h;2ce bn p h al;3al p h bn;2al ce p h;2bn ce p o;2ce bn p o al;3al p o bn
    2al ce p o;2bn UP p h;2UP bn p h al;3al p h bn;2al UP p h;2bn UP p o;2UP bn p o al;3al p o bn
    2al UP p o;2bn q p h;2q bn p h al;2UP al p h ce bn;2ce al p h UP bn;2q al p h bn
    2ce bn p h UP al;2UP bn p h ce al;2al q p h;2bn q p o;2q bn p o al;2UP al p o ce bn
    2ce al p o UP bn;2q al p o bn;2ce bn p o UP al;2UP bn p o ce al;2al q p o;2bn ce p x
    2o al p h ce bn;2h al p o ce bn;2ce bn p x al;3al p x bn;2h bn p o ce al;2o bn p h ce al
    2al ce p x;2bn UP p x;2o al p h UP bn;2h al p o UP bn;2UP bn p x al;3al p x bn;2h bn p o UP al
    2o bn p h UP al;2al UP p x;2bn q p x;2o al p h q bn;2h al p o q bn;2q bn p x al
    2UP al p ce x bn;2ce al p UP x bn;2q al p x bn;2o UP al p h ce bn;2h UP al p o ce bn
    2o ce al p h UP bn;2h ce al p o UP bn;2ce bn p UP x al;2UP bn p ce x al;2h bn p o q al
    2o bn p h q al;2al q p x;2bn l im x;2al l im x;2bn l im q;2al l im q;2l x;3q;2ce bw p h l
    3l p h bw;2l ce p h;2ce bw p o l;3l p o bw;2l ce p o;2UP bw p h l;3l p h bw;2l UP p h
    2UP bw p o l;3l p o bw;2l UP p o;2q bw p h l;3l p h bw;2l q p h;2q bw p o l;3l p o bw;2l q p o
    2ce bw p x l;3l p x bw;2l ce p x;2UP bw p x l;3l p x bw;2l UP p x;2q bw p x l;3l p x bw
    2l q p x;2bn ARC ce p h;6o;4UP p o;6h;3cm cr h TO bt o;5o TO bt h;4fr;3o;3UP;3h;3ce;2al o;3UP
    3h;3ce;2bn o p al h;3UP p al ce;2al o p bn h;3UP p bn ce;0cr cd du;0bt br hd du;2ek du;1t js du
    1cd du;1ay js du;1t ig du;1au js du;0hf du;0o au js du;1t ig du;1ay js du;1cd du;1t js du
    1br ek du;2hd du;0h cd du;0bn SHADE;0bd SHADE;0DARK SHADE;0cr br hd du;0h br hd du;0ij bt o;2h
    1cr o;3p bt o p bt h;5h;4cr h p bt o;8h;2h;3p bt o;6p bt h;0y an;0z an;2b ROUNDED CORNERS
    2CONTAINING y d an;0an b x FILL;2q FILL;2ORTHOGONAL CROSSHATCH FILL;2cr o TO bt h FILL
    3h TO bt o FILL;2cm CROSSHATCH FILL;0y d an;0z d an;0y RECTANGLE;0z RECTANGLE;0y q RECTANGLE
    0z q RECTANGLE;0y PARALLELOGRAM;0z PARALLELOGRAM;0y gf ah;0z gf ah;0y gf d ah;0z gf d ah
    0y cc ah;0z cc ah;0y cc d ah;0z cc d ah;0y cc POINTER;0z cc POINTER;0y gc ah;0z gc ah
    0y gc d ah;0z gc d ah;0y de ah;0z de ah;0y de d ah;0z de d ah;0y de POINTER;0z de POINTER;0y dk
    0z dk;2CONTAINING y d dk;0FISHEYE;0kz;0z ao;0ez ao;0ao b q FILL;0BULLSEYE;0y ao;0ao b o cd y
    2h cd y;2bt cd y;2cr cd y;3h ij y;2ALL BUT cr o ij y;0o cd y ao;0h cd y ao;0INVERSE BULLET
    1z ao;0cr cd INVERSE z ao;0bt cd INVERSE z ao;0cr o ij CIRCULAR ARC;1h ij CIRCULAR ARC
    0bt h ij CIRCULAR ARC;1o ij CIRCULAR ARC;0cr cd ao;0bt cd ao;0y bt h ah;2o ah;1cr o ah;2h ah
    0z BULLET;0an b o cd y;2h cd y;2cr o cm cd y;2bt h cm cd y;0z an b q BISECTING ey;1gf ah b bx
    0gf ah b o cd y;3h cd y;0dd ao;0z an b cr o ij;3bt o ij;4h ij;3cr h ij;1ao b cr o ij;3bt o ij
    4h ij;3cr h ij;0cr o ah;1h ah;0bt o ah;0z bd an;0y bd an;0z bd d an;0y bd d an;0bt h ah
    0y SUN b RAYS;0CLOUD;0UMBRELLA;0SNOWMAN;0COMET;0y gg;0z gg;0LIGHTNING;0THUNDERSTORM;0SUN
    0ASCENDING NODE;0DESCENDING NODE;0CONJUNCTION;0OPPOSITION;0y ja;0z ja;0BALLOT BOX;2b CHECK;3X
    0SALTIRE;0UMBRELLA b RAIN DROPS;0HOT BEVERAGE;0z SHOGI PIECE;0y SHOGI PIECE;0SHAMROCK
    0aq bp FLORAL ik BULLET;0y o bb bi;1h bb bi;0z o bb bi;1UP bb bi;1h bb bi;1ce bb bi
    0SKULL p CROSSBONES;0CAUTION g;0RADIOACTIVE g;0BIOHAZARD g;0CADUCEUS;0ANKH;0ORTHODOX fr
    0CHI RHO;0fr OF LORRAINE;2JERUSALEM;0gg p CRESCENT;0FARSI w;0ADI SHAKTI;0HAMMER p SICKLE
    0PEACE w;0YIN YANG;0TRIGRAM FOR HEAVEN;2LAKE;2FIRE;2THUNDER;2WIND;2WATER;2MOUNTAIN;2EARTH
    0WHEEL OF DHARMA;0z FROWNING cs;1it cs;0y it cs;0z SUN b RAYS;0FIRST ek MOON;0LAST ek MOON
    0MERCURY;0FEMALE g;0EARTH;0MALE g;0JUPITER;0SATURN;0URANUS;0NEPTUNE;0PLUTO;0ARIES;0TAURUS
    0GEMINI;0CANCER;0LEO;0VIRGO;0LIBRA;0SCORPIUS;0SAGITTARIUS;0CAPRICORN;0AQUARIUS;0PISCES
    0z hq KING;2QUEEN;2ROOK;2BISHOP;2gt;2PAWN;0y hq KING;2QUEEN;2ROOK;2BISHOP;2gt;2PAWN;1SPADE SUIT
    0z ik SUIT;1dk SUIT;0y CLUB SUIT;0z SPADE SUIT;0y ik SUIT;1dk SUIT;0z CLUB SUIT;0HOT SPRINGS
    0ek NOTE;0hd NOTE;0BEAMED hd NOTES;1SIXTEENTH NOTES;0MUSIC FLAT g;1NATURAL g;1SHARP g
    0gw SYRIAC fr;0fz SYRIAC fr;0UNIVERSAL RECYCLING w;0RECYCLING w FOR TYPE-1 PLASTICS
    3TYPE-2 PLASTICS;3TYPE-3 PLASTICS;3TYPE-4 PLASTICS;3TYPE-5 PLASTICS;3TYPE-6 PLASTICS
    3TYPE-7 PLASTICS;3GENERIC MATERIALS;0y UNIVERSAL RECYCLING w;0RECYCLED PAPER w
    0PARTIALLY-RECYCLED PAPER w;0PERMANENT PAPER g;0WHEELCHAIR w;0DIE FACE-1>6;0z ao b bx h;3bj cu
    0y ao b z bx h;3bj z cu;0MONOGRAM FOR YANG;2YIN;0DIGRAM FOR GREATER YANG;2LESSER YIN;3YANG
    2GREATER YIN;0z FLAG;0y FLAG;0HAMMER p PICK;0ANCHOR;0la SWORDS;0STAFF OF AESCULAPIUS;0SCALES
    0ALEMBIC;0FLOWER;0GEAR;0STAFF OF HERMES;0ATOM w;0FLEUR-DE-LIS;0OUTLINED z gg
    0t LINES CONVERGING h;3o;0WARNING g;0ew VOLTAGE g;0DOUBLED FEMALE g;1MALE g
    0INTERLOCKED FEMALE p MALE g;0MALE p FEMALE g;1b v g;3p MALE p FEMALE g;0q MALE b v g
    0x MALE b v g;0bd z ao;1y ao;1d z ao;0MARRIAGE w;0DIVORCE w;0UNMARRIED PARTNERSHIP w;0COFFIN
    0FUNERAL URN;0NEUTER;0CERES;0PALLAS;0JUNO;0VESTA;0CHIRON;0y MOON LILITH;0SEXTILE;0SEMISEXTILE
    0QUINCUNX;0SESQUIQUADRATE;0SOCCER BALL;0BASEBALL;0eb KEY;0z DRAUGHTS MAN;2KING;0y DRAUGHTS MAN
    2KING;0SNOWMAN WITHOUT SNOW;0SUN BEHIND CLOUD;0RAIN;0y SNOWMAN;0THUNDER CLOUD p RAIN
    0bg z SHOGI PIECE;1y SHOGI PIECE;0z dk IN an;0ds LANES;0DISABLED CAR;0OPHIUCHUS;0PICK
    0CAR SLIDING;0HELMET b z fr;0cl ds LANES;0CHAINS;0NO ENTRY;0er ONE-WAY o WAY TRAFFIC
    0y TWO-WAY o WAY TRAFFIC;0z TWO-WAY o WAY TRAFFIC;0y o LANE MERGE;0z o LANE MERGE;0DRIVE SLOW g
    0al z gc ah;0o fn ENTRY;0eb SALTIRE;0FALLING cm IN z ao IN y an;0y TRUCK;0RESTRICTED o ENTRY-1
    2ENTRY-2;0ASTRONOMICAL w FOR URANUS;0al ao b v p bj cu i;0PENTAGRAM
    0RIGHT-HANDED INTERLACED PENTAGRAM;0LEFT-HANDED INTERLACED PENTAGRAM;0ba PENTAGRAM
    0y fr ON SHIELD;0SHINTO SHRINE;0CHURCH;0CASTLE;0HISTORIC SITE;0GEAR WITHOUT HUB;1b HANDLES
    0MAP w FOR LIGHTHOUSE;0MOUNTAIN;0UMBRELLA ON GROUND;0FOUNTAIN;0FLAG IN HOLE;0FERRY;0SAILBOAT
    0an at CORNERS;0SKIER;0ICE SKATE;0lb b BALL;0TENT;0JAPANESE BANK w;0HEADSTONE GRAVEYARD w
    0FUEL PUMP;0CUP ON y an;0z FLAG b x ad y STRIPE;0y SAFETY SCISSORS;0cr BLADE SCISSORS
    0y SCISSORS;0bt BLADE SCISSORS;0z SCISSORS;1al CHECK ai;0ja LOCATION g;0TAPE DRIVE;0AIRPLANE
    0ENVELOPE;0hh FIST;1lc;0VICTORY lc;0WRITING lc;0bt h PENCIL;0PENCIL;0cr h PENCIL;0z NIB;0y NIB
    0CHECK ai;0al CHECK ai;0gd X;0al gd X;0BALLOT X;0al BALLOT X;0OUTLINED jg fr;0al jg fr
    0eg da fr;0al eg da fr;0eo fr;0jp z eo fr;0OUTLINED eo fr;0MALTESE fr;0gg OF DAVID;0at ix ch
    1BALLOON-SPOKED ch;0al at BALLOON-SPOKED ch;0at CLUB-SPOKED ch;0y at ea gg;0z at ea gg
    0SPARKLES;0STRESS OUTLINED z gg;0cl z gg;0eg da y gg;0y da z gg;0OUTLINED y gg
    0al OUTLINED y gg;0PINWHEEL gg;0jp z gg;0al ch;0eg da ch;0ar ju ch;1ea y gg;2PINWHEEL gg
    0eu ea y gg;0ar ea RECTILINEAR y gg;0al ar ea RECTILINEAR y gg;0TWELVE ea y gg;0SIXTEEN ea ch
    0ix ch;0eg da ix ch;0al ix ch;0eu PETALLED y p z FLORETTE;0y FLORETTE;0z FLORETTE
    0ar PETALLED OUTLINED y FLORETTE;0cl eg da ar ea gg;0al ix PINWHEEL ch;0SNOWFLAKE
    0TIGHT TRIFOLIATE SNOWFLAKE;0al CHEVRON SNOWFLAKE;0SPARKLE;0al SPARKLE;0BALLOON-SPOKED ch
    0ar ix PROPELLER ch;0al ar ix PROPELLER ch;0fr ai;0jp z ao;0hx eb fr ai
    0bt h DROP-SHADOWED z an;0cr h DROP-SHADOWED z an;0bt h jp z an;0cr h jp z an;0y ec ai bo
    0z ec ai bo;1cy ai bo;0y dk MINUS z X;0al cy ai w;0bn q fc;0bd q fc;0al q fc;1bw bg dq dh ai bo
    2dq dh ai bo;1l bg dq dh ai bo;2dq dh ai bo;1ho bw dq dh ai bo;2l dq dh ai bo
    0CURVED STEM PARAGRAPH g bo;0al cy ai bo;1ik cy ai bo;1y ik;0bp al y ik BULLET;0FLORAL ik
    0bp FLORAL ik BULLET;0bd o be bo;1h be bo;1FLATTENED o be bo;2h be bo;1de ep ae bo;1cc ep ae bo
    0al de ep dh ai bo;1cc ep dh ai bo;1de ep ae bo;1cc ep ae bo;0bn o hg jt ae bo;1h hg jt ae bo
    0bd o jc ae bo;1h jc ae bo;0DINGBAT hx cl bs br;4bj;4t;4at;4ay;4eu;4au;4ar;4cj;3cq io
    1cl dv bs br;4bj;4t;4at;4ay;4eu;4au;4ar;4cj;3cq io;1hx cl dv bs br;5bj;5t;5at;5ay;5eu;5au;5ar
    5cj;4cq io;0al WIDE-HEADED k f;1by g;1MINUS g;1DIVISION g;1fu fz f;1k f;1fg fz f
    0DRAFTING POINT k f;0al ROUND-TIPPED k f;0u k f;0al u k f;0DASHED u k f;0al DASHED u k f;0y k f
    0THREE-D TOP-LIGHTED k am;1BOTTOM-LIGHTED k am;0y k am;0al y CURVED aa p k f;3ap p k f
    0SQUAT y k f;0al CONCAVE-POINTED y k f;0RIGHT-SHADED z k f;0LEFT-SHADED z k f
    0BACK-TILTED jp z k f;0FRONT-TILTED jp z k f;0al bt RIGHT-SHADOWED z k f
    1cr RIGHT-SHADOWED z k f;0NOTCHED bt RIGHT-SHADOWED z k f;0jc LOOP
    0NOTCHED cr RIGHT-SHADOWED z k f;0cl al z k f;0WHITE-FEATHERED k f;0BLACK-FEATHERED fu fz f
    1k f;1fg fz f;0al BLACK-FEATHERED fu fz f;2k f;2fg fz f;0TEARDROP-BARBED k f
    0al TEARDROP-SHANKED k f;0WEDGE-TAILED k f;0al WEDGE-TAILED k f;0OPEN-OUTLINED k f;0l jc LOOP
    0t DIMENSIONAL ep;0z ah CONTAINING d z ah;0PERPENDICULAR;0eg hi;1fl;0o S-SHAPED BAG DELIMITER
    0h S-SHAPED BAG DELIMITER;0OR b bx jj;0gx gh PRECEDING hi;0fl PRECEDING gh;0q fc b x v
    0MATHEMATICAL RISING cm;0ej DIVISION;0MATHEMATICAL FALLING cm;0eb kx p;2OR;0z dk b CENTRED bx
    0p b bx;0ELEMENT OF OPENING ap;0bt h ga b bx;0cr o ga b bx;0o OUTER JOIN;0h OUTER JOIN
    0hf OUTER JOIN;0dd UP jx;1ce jx;0o p h l TURNSTILE;3jx;1MULTIMAP;0ej h jx;1o jx;0UP jx b ao i
    0kz DIVIDED BY x RULE;0z CONCAVE-SIDED dk;3b r TICK;4k TICK;1an b r TICK;3k TICK
    0MATHEMATICAL o z an ae;1h z an ae;1o ep ae;1h ep ae;1o l ep ae;1h l ep ae;1o z hg jt ae
    1h z hg jt ae;1o FLATTENED be;1h FLATTENED be;0ap jr f;0aa jr f;0dn GAPPED ao f;0ii GAPPED ao f
    0h f b cl by;0ej r f;1k f;1o h f;1r l f;1k l f;1o h l f;1r f ku fc;1k f ku fc;1r l f ku fc
    1k l f ku fc;2SQUIGGLE f;0BRAILLE PATTERN BLANK;2DOTS-1;2DOTS-2;2DOTS-12;2DOTS-3;2DOTS-13
    2DOTS-23;2DOTS-123;2DOTS-4;2DOTS-14;2DOTS-24;2DOTS-124;2DOTS-34;2DOTS-134;2DOTS-234;2DOTS-1234
    2DOTS-5;2DOTS-15;2DOTS-25;2DOTS-125;2DOTS-35;2DOTS-135;2DOTS-235;2DOTS-1235;2DOTS-45;2DOTS-145
    2DOTS-245;2DOTS-1245;2DOTS-345;2DOTS-1345;2DOTS-2345;2DOTS-12345;2DOTS-6;2DOTS-16;2DOTS-26
    2DOTS-126;2DOTS-36;2DOTS-136;2DOTS-236;2DOTS-1236;2DOTS-46;2DOTS-146;2DOTS-246;2DOTS-1246
    2DOTS-346;2DOTS-1346;2DOTS-2346;2DOTS-12346;2DOTS-56;2DOTS-156;2DOTS-256;2DOTS-1256;2DOTS-356
    2DOTS-1356;2DOTS-2356;2DOTS-12356;2DOTS-456;2DOTS-1456;2DOTS-2456;2DOTS-12456;2DOTS-3456
    2DOTS-13456;2DOTS-23456;2DOTS-123456;2DOTS-7;2DOTS-17;2DOTS-27;2DOTS-127;2DOTS-37;2DOTS-137
    2DOTS-237;2DOTS-1237;2DOTS-47;2DOTS-147;2DOTS-247;2DOTS-1247;2DOTS-347;2DOTS-1347;2DOTS-2347
    2DOTS-12347;2DOTS-57;2DOTS-157;2DOTS-257;2DOTS-1257;2DOTS-357;2DOTS-1357;2DOTS-2357;2DOTS-12357
    2DOTS-457;2DOTS-1457;2DOTS-2457;2DOTS-12457;2DOTS-3457;2DOTS-13457;2DOTS-23457;2DOTS-123457
    2DOTS-67;2DOTS-167;2DOTS-267;2DOTS-1267;2DOTS-367;2DOTS-1367;2DOTS-2367;2DOTS-12367;2DOTS-467
    2DOTS-1467;2DOTS-2467;2DOTS-12467;2DOTS-3467;2DOTS-13467;2DOTS-23467;2DOTS-123467;2DOTS-567
    2DOTS-1567;2DOTS-2567;2DOTS-12567;2DOTS-3567;2DOTS-13567;2DOTS-23567;2DOTS-123567;2DOTS-4567
    2DOTS-14567;2DOTS-24567;2DOTS-124567;2DOTS-34567;2DOTS-134567;2DOTS-234567;2DOTS-1234567
    2DOTS-8;2DOTS-18;2DOTS-28;2DOTS-128;2DOTS-38;2DOTS-138;2DOTS-238;2DOTS-1238;2DOTS-48;2DOTS-148
    2DOTS-248;2DOTS-1248;2DOTS-348;2DOTS-1348;2DOTS-2348;2DOTS-12348;2DOTS-58;2DOTS-158;2DOTS-258
    2DOTS-1258;2DOTS-358;2DOTS-1358;2DOTS-2358;2DOTS-12358;2DOTS-458;2DOTS-1458;2DOTS-2458
    2DOTS-12458;2DOTS-3458;2DOTS-13458;2DOTS-23458;2DOTS-123458;2DOTS-68;2DOTS-168;2DOTS-268
    2DOTS-1268;2DOTS-368;2DOTS-1368;2DOTS-2368;2DOTS-12368;2DOTS-468;2DOTS-1468;2DOTS-2468
    2DOTS-12468;2DOTS-3468;2DOTS-13468;2DOTS-23468;2DOTS-123468;2DOTS-568;2DOTS-1568;2DOTS-2568
    2DOTS-12568;2DOTS-3568;2DOTS-13568;2DOTS-23568;2DOTS-123568;2DOTS-4568;2DOTS-14568;2DOTS-24568
    2DOTS-124568;2DOTS-34568;2DOTS-134568;2DOTS-234568;2DOTS-1234568;2DOTS-78;2DOTS-178;2DOTS-278
    2DOTS-1278;2DOTS-378;2DOTS-1378;2DOTS-2378;2DOTS-12378;2DOTS-478;2DOTS-1478;2DOTS-2478
    2DOTS-12478;2DOTS-3478;2DOTS-13478;2DOTS-23478;2DOTS-123478;2DOTS-578;2DOTS-1578;2DOTS-2578
    2DOTS-12578;2DOTS-3578;2DOTS-13578;2DOTS-23578;2DOTS-123578;2DOTS-4578;2DOTS-14578;2DOTS-24578
    2DOTS-124578;2DOTS-34578;2DOTS-134578;2DOTS-234578;2DOTS-1234578;2DOTS-678;2DOTS-1678
    2DOTS-2678;2DOTS-12678;2DOTS-3678;2DOTS-13678;2DOTS-23678;2DOTS-123678;2DOTS-4678;2DOTS-14678
    2DOTS-24678;2DOTS-124678;2DOTS-34678;2DOTS-134678;2DOTS-234678;2DOTS-1234678;2DOTS-5678
    2DOTS-15678;2DOTS-25678;2DOTS-125678;2DOTS-35678;2DOTS-135678;2DOTS-235678;2DOTS-1235678
    2DOTS-45678;2DOTS-145678;2DOTS-245678;2DOTS-1245678;2DOTS-345678;2DOTS-1345678;2DOTS-2345678
    2DOTS-12345678;0k iu f b q v;4l q v;0r l f b q v;0k l f b q v;0o h l f b q v;0k iu f ku fc
    0r l f ku fc;0k l f ku fc;0aa f b x v;0ap f b x v;1dr f;0aa dr f;0r l im f;0k l im f;0r dr im f
    0k dr im f;1iu dr im f;1f b ez STEM;0ap f TO fc;0aa f TO fc;0k f b gr b q v;5l q v;1iu f b gr
    5b q v;6l q v;0r ARROW-TAIL;0k ARROW-TAIL;0r l ARROW-TAIL;0k l ARROW-TAIL;0r f TO y dk
    0k f TO y dk;0r f ku fc TO y dk;0k f ku fc TO y dk;0fg gw p fu fz f;1fz p fu gw f;1gw f b av
    1fz f b av;0fu fz f b av;1gw f b av;0fg gw f p fg fz f;1fz f p fu fz f;0fu fz f p fu gw f
    1gw f p fg gw f;0RISING cm ds FALLING cm;0FALLING cm ds RISING cm;0fu fz f ds fg fz f
    0fg fz f ds fu fz f;0FALLING cm ds fg fz f;0RISING cm ds fu fz f;0fg fz f ds fg gw f
    1gw f ds fg fz f;0WAVE f bb DIRECTLY h;0f bb k THEN CURVING ap;5aa;2aa THEN CURVING r;5k
    0RIGHT-SIDE ARC ii f;0LEFT-SIDE ARC dn f;0TOP ARC dn f;0fy ARC dn f;0TOP ARC ii f b MINUS
    2dn f b by;0bt h SEMICIRCULAR ii f;1o SEMICIRCULAR dn f;0dn fn ao f;0ii fn ao f;0k f i es r f
    0r f i es k f;0es k f i r f;0k f b by m;0r f b by m;0k f kc X;0o h f kc d ao;0ap iu f ku d ao
    0o dm UP h dm ce cf;2ce h dm UP cf;0UP dm h ce dm o cf;2o ce dm h cf;0o dm UP h dm UP cf
    0UP dm h ce dm h cf;0o dm ce h dm ce cf;0UP dm o ce dm o cf;0r cf b dm UP TO fc
    0k cf b dm UP TO fc;0ap cf b dm h TO fc;0aa cf b dm h TO fc;0r cf b dm ce TO fc
    0k cf b dm ce TO fc;0ap cf b dm o TO fc;0aa cf b dm o TO fc;0r cf b dm UP ku fc
    0k cf b dm UP ku fc;0ap cf b dm h ku fc;0aa cf b dm h ku fc;0r cf b dm ce ku fc
    0k cf b dm ce ku fc;0ap cf b dm o ku fc;0aa cf b dm o ku fc;0r cf b dm UP i r cf b dm ce
    0ap cf b dm o BESIDE ap cf b dm h;0k cf b dm UP i k cf b dm ce
    0aa cf b dm o BESIDE aa cf b dm h;0r cf b dm UP i k cf b dm UP;4ce i k cf b dm ce
    0k cf b dm UP i r cf b dm UP;4ce i r cf b dm ce;0r cf b dm UP i ej im;4ce m ej im
    0k cf b dm UP i ej im;4ce m ej im;0ap cf b dm o BESIDE aa cf b dm h
    0aa cf b dm o BESIDE ap cf b dm h;0h l f b ROUNDED HEAD;0fm g i k f;0bq co i k f;0r f i bq co
    0k f i bq co;3kq bk TO;0aw i r f;0r f kc aw;0aj i k f;0hi i k f;0r f kc hi;0fl i r f;0o FISH gr
    0h FISH gr;0UP FISH gr;0ce FISH gr;0dr q fc DELIMITER;0Z NOTATION SPOT;2TYPE hp;0o z jc ae
    0h z jc ae;0o z be;0h z be;0Z NOTATION o IMAGE ae;2h IMAGE ae;2o BINDING ae;2h BINDING ae
    0o an ae b fd;0h an ae b fd;0o an ae b TICK IN TOP ga;0h an ae b TICK IN fy ga
    0o an ae b TICK IN fy ga;0h an ae b TICK IN TOP ga;0o ep ae b bx;0h ep ae b bx;0o ARC aw ae
    0h ARC aj ae;0l o ARC aj ae;1h ARC aw ae;0o y hg jt ae;0h y hg jt ae;0ez FENCE;0q ZIGZAG ey
    0MEASURED ep OPENING o;0h ep ha b an;0MEASURED h ep b bx;0ep b S jj;0cb ep
    0SPHERICAL ep OPENING o;3UP;0bg ep;0aq ep;0ep b fd;0aq ep b fd;0jq ep OPENING UP;3ce
    0MEASURED ep b eg ARM ENDING IN f bb UP p h;Bo;9ce p h;Bo;9h p UP;9o p UP;9h p ce;9o p ce
    0aq EMPTY SET;0EMPTY SET b ky;3d ao i;3h f i;3o f i;0ao b x fc;0cl q fc;1PARALLEL;1gx gh
    1PERPENDICULAR;0ao DIVIDED BY x fc p TOP cd DIVIDED BY q fc;1b SUPERIMPOSED X
    0cl ANTICLOCKWISE-ROTATED DIVISION g;0UP f kc ao;0cl z BULLET;1BULLET;1aw;1aj
    0ao b d ao TO THE h;2bj x STROKES TO THE h;0eb RISING cm SLASH;1FALLING cm SLASH;1ch;1d ao;1an
    0bj JOINED SQUARES;0ah b bx i;2fd;0S IN ah;0ah b SERIFS AT fy;0h ah i o ah;0o ah BESIDE q fc
    0q fc BESIDE h ah;0BOWTIE b o cd y;2h cd y;0y BOWTIE;0as b o cd y;2h cd y;0z HOURGLASS
    0y HOURGLASS;0o WIGGLY FENCE;0h WIGGLY FENCE;0o l WIGGLY FENCE;0h l WIGGLY FENCE
    0INCOMPLETE INFINITY;0TIE cv INFINITY;0INFINITY NEGATED b q fc;0DOUBLE-ENDED MULTIMAP
    0an b CONTOURED OUTLINE;0INCREASES AS;0SHUFFLE kw;0fm g p hb PARALLEL;5b bq i
    0IDENTICAL TO p hb PARALLEL;0GLEICH STARK;0THERMODYNAMIC;0gc ah b o cd y;3h cd y;0y dk b ce f
    1kz;0z ao b ce f;0y ao b ce f;0ERROR-BARRED z an;1y an;1z dk;1y dk;1z ao;1y ao;0RULE-DELAYED
    0gx gh co;0gh b ky;0gx gh b x v;0BIG gh;1gx gh;0l by;0dr by;0de CURVED ep ae;0cc CURVED ep ae
    0TINY;0MINY;0N-ARY cl bx co;2by co;2as co;1UNION co b bx;4by;1an en co;2UNION co;0bj kx p co
    2OR co;0N-ARY as co;0MODULO bj SUM;0SUMMATION b gs;0jr gs co;0FINITE PART gs;0gs b l v
    1AVERAGE b SLASH;0CIRCULATION FUNCTION;0dn INTEGRATION
    0ey INTEGRATION b RECTANGULAR PATH AROUND POLE;3SEMICIRCULAR PATH AROUND POLE
    2li INCLUDING THE POLE;0gs AROUND A POINT co;0QUATERNION gs co;0gs b r f b av;2as g;2en;2UNION
    2ky;2fd;0JOIN;0dd o ah co;0Z NOTATION SCHEMA COMPOSITION;3PIPING;3PROJECTION;0by g b d ao i
    3af ev i;3bq i;3bx m;3bq m;3SUBSCRIPT bj;3y ah;0MINUS g b dq i;3bx m;3FALLING cu;3RISING cu
    0by g IN o cd ao;3h cd ao;0VECTOR OR fr kw;0gd g b bx i;3fd;0SEMIDIRECT kw b fy fn;0SMASH kw
    0gd g IN o cd ao;3h cd ao;0cl gd g b af ev;0gd g IN l ao;0cl DIVISION g;0by g IN ah
    0MINUS g IN ah;0gd g IN ah;0INTERIOR kw;0RIGHTHAND INTERIOR kw
    0Z NOTATION RELATIONAL COMPOSITION;0AMALGAMATION OR COPRODUCT;0en b bx;0UNION b MINUS g;2ky
    0en b ky;2kx p;0UNION b kx OR;1i en;0en i UNION;0UNION i fc i en;0en i fc i UNION
    0UNION BESIDE p JOINED b UNION;0en BESIDE p JOINED b en;0fn UNION b SERIFS;1en b SERIFS
    0l an en;2UNION;0fn UNION b SERIFS p SMASH kw;0kx p b bx i;1OR b bx i;0l kx p;2OR
    0bj INTERSECTING kx p;3OR;0SLOPING dd OR;2p;0kx OR OVERLAPPING kx p;1p b ad STEM;1OR b ad STEM
    1p b x im;1OR b x im;1p b l ky;3fd;3l fd;0d VEE b fd;0kx OR b l ky;4fd
    0Z NOTATION DOMAIN ANTIRESTRICTION;2RANGE ANTIRESTRICTION;0fm g b bx m;0IDENTICAL b bx i
    0dr x fc b l q v;4dr q v;0bq co b bx i;3RISING cu;0SIMILAR MINUS SIMILAR;0CONGRUENT b bx i
    0fm b ch;0kq bk TO b af ev;0APPROXIMATELY bk OR bk TO;0fm g i by g;0by g i fm g;0fm g i bq co
    0l hp bk;0bj CONSECUTIVE fm SIGNS;0t CONSECUTIVE fm SIGNS;0fm g b bj cu i p bj cu m
    0gk b at cu i;0aw b ao jj;0aj b ao jj;0aw b ec ai i;0aj b ec ai i;0aw OR hb bk TO
    0aj OR hb bk TO;0aw OR hb bk TO b bx jj;0aj OR hb bk TO b bx jj;0aw OR hb bk TO b bx i
    0aj OR hb bk TO b bx i;0aw OR hb bk TO b bx i h;0aj OR hb bk TO b bx i o;0aw OR APPROXIMATE
    0aj OR APPROXIMATE;0aw p SINGLE-LINE li bk TO;0aj p SINGLE-LINE li bk TO;0aw p li APPROXIMATE
    0aj p li APPROXIMATE;0aw i DOUBLE-LINE bk i aj;0aj i DOUBLE-LINE bk i aw;0aw i SIMILAR OR bk
    0aj i SIMILAR OR bk;0aw i SIMILAR i aj;0aj i SIMILAR i aw;0aw i aj i DOUBLE-LINE bk
    0aj i aw i DOUBLE-LINE bk;0aw i hb bk i aj i hb bk;0aj i hb bk i aw i hb bk;0hb bk TO OR aw;4aj
    4aw b bx jj;4aj b bx jj;0DOUBLE-LINE bk TO OR aw;4aj;1hb bk TO OR aw;5aj;0SIMILAR OR aw;2aj
    1i aw i fm g;2aj i fm g;0l NESTED aw;2aj;2aw b fd;0aj OVERLAPPING aw;1BESIDE aw;0aw fn BY CURVE
    0aj fn BY CURVE;0aw fn BY CURVE i hb bk;0aj fn BY CURVE i hb bk;0SMALLER THAN;0LARGER THAN
    0SMALLER THAN OR bk TO;0LARGER THAN OR bk TO;0fm g b BUMPY i;0jn i SINGLE-LINE fm g
    0jo i SINGLE-LINE fm g;0jn i SINGLE-LINE li bk TO;0jo i SINGLE-LINE li bk TO;0jn i fm g
    0jo i fm g;0jn i li bk TO;0jo i li bk TO;0jn i kq bk TO;0jo i kq bk TO;0jn i li kq bk TO
    0jo i li kq bk TO;0l jn;1jo;0hi b bx;0fl b bx;0hi b by g m;0fl b by g m;0hi b gd g m
    0fl b gd g m;0hi OF OR bk TO b bx i;0fl OF OR bk TO b bx i;0hi OF i fm g;0fl OF i fm g
    0hi OF i bq co;0fl OF i bq co;0hi OF i kq bk TO;0fl OF i kq bk TO;0hi OF i li bk TO
    0fl OF i li bk TO;0an o eg BOX co;1h eg BOX co;0fn hi;1fl;1hi OR bk TO;1fl OR bk TO;0hi i fl
    0fl i hi;0hi i hi;0fl i fl;1BESIDE hi;2p JOINED BY im b hi;0ELEMENT OF OPENING aa
    0PITCHFORK b TEE TOP;0TRANSVERSAL en;0FORKING;0NONFORKING;0es o jx;1ce jx;1UP jx
    0PERPENDICULAR b S;0q fc dr h TURNSTILE;0l q fc o TURNSTILE;0q fc l o TURNSTILE
    0l q fc l o TURNSTILE;0ej im ku o MEMBER OF l q;0es ce jx b ky;1UP jx b fd;3i es ce jx;0l ce jx
    1UP jx;1v li g;0aq l v li g;0DOES li DIVIDE b aq NEGATION SLASH;0q ey b ao i;4m;0ce jx b ao m
    0PARALLEL b x v;2bq co;0dr q fc BINARY RELATION;3b x v;1hp co;1NESTED aw;2aj
    0DOUBLE-LINE hb aw OR bk TO;2aj OR bk TO;0dr gh BINARY RELATION;0dd dr q fc co;0l gh co;0z q fc
    0N-ARY z q fc;0fg fz z f;1gw z f;0fu fz z f;1gw z f;0o h z f;0r y f;0ap y f;0aa y f;0fg fz y f
    1gw y f;0fu fz y f;1gw y f;0o h y f;0UP ce y f;0k f b TIP aa;4ap;0r f b TIP aa;4ap
    0an b TOP cd y;2fy cd y;2cr h cm cd y;2bt o cm cd y;0dk b o cd y;2h cd y;2TOP cd y;2fy cd y
    0ez an;0y dd an;0z dd an;0y VERY d an;0z VERY d an;0y PENTAGON;0z PENTAGON;1HEXAGON;0y HEXAGON
    0x y HEXAGON;0y dd ao;1bd dk;0z bd dk;0y bd kz;0z bd kz;0y d dk;2kz;0z d kz;0y x ELLIPSE
    0z x ELLIPSE;0y q ELLIPSE;0z q ELLIPSE;0o f b d ao;0t r kv;0o f b cl by;0ej r SQUIGGLE f
    0r iu f b q v;4l q v;3ku fc;2dr im f;1f b ez STEM;3gr b q v;5l q v;1iu f b gr;5b q v;6l q v
    1f kc X;0WAVE f bb DIRECTLY o;0fm g i r f;0gx bq co i r f;0r f i gx kq bk TO;0k f kc aj;3fl
    0r jr f;0k jr f;0gx bq co i k f;0k f i gx kq bk TO;0bq co i r f;0r f i kq bk TO;3gx bq co
    0k f i gx bq co;0aa u ZIGZAG f;0es hb fg f;1BACKSLANTED fu f;0z bd gg;0y d gg;0z d gg
    0y cc PENTAGON;0z cc PENTAGON;0al dd ao;1OVAL b OVAL jj;1ao b ao jj;1ao;1cl SALTIRE
    0hb fg f b HOOKED HEAD;0BACKSLANTED fu f b HOOKED gr;0hb fg f b x gr;0BACKSLANTED fu f b x gr
    0lk f bb aa THEN fg fz;0es lk f bb aa THEN fg fz;0r u f;0ap u f;0k u f;0aa u f;0o h u f
    0UP ce u f;0fg gw u f;1fz u f;0fu fz u f;1gw u f;0r u DASHED f;0ap u DASHED f;0k u DASHED f
    0aa u DASHED f;0ii u eg ao f;0dn u eg ao f;0r u f TO fc;0ap u f TO fc;0k u f TO fc
    0aa u f TO fc;2B76:0fg gw u f TO fc;1fz u f TO fc;0fu fz u f TO fc;1gw u f TO fc;0r u f b l x v
    0ap u f b l x v;0k u f b l x v;0aa u f b l x v;0x TAB KEY;0q TAB KEY;0r u f cv k u f
    0ap u f r OF aa u f;0k u f cv r u f;0aa u f r OF ap u f;0r u PAIRED kv;0ap u PAIRED kv
    0k u PAIRED kv;0aa u PAIRED kv;0r y cl z f;0ap y cl z f;0k y cl z f;0aa y cl z f
    0dn u h U-SHAPED f;2fy U-SHAPED f;2o U-SHAPED f;2TOP U-SHAPED f;0RETURN o;1h;0NEWLINE o;1h
    0at ga kv CIRCLING dn;0k y f;2B97:0w FOR TYPE A ELECTRONICS;0THREE-D TOP-LIGHTED r dg am
    1RIGHT-LIGHTED ap dg am;1TOP-LIGHTED k dg am;1LEFT-LIGHTED aa dg am;0y r dg am;1ap dg am
    1k dg am;1aa dg am;0aa u f b ej TIP r;6k;0ap u f b ej TIP r;6k;0r u f b ej TIP ap
    0k u f b ej TIP ap;0r u f b ej TIP aa;0k u f b ej TIP aa;0y CURVED aa p r f;4k f;2ap p r f;4k f
    2r p ap f;2k p ap f;2r p aa f;2k p aa f;0RIBBON f ce o;3h;2UP o;3h;2o UP;2h UP;2o ce;2h ce
    0ap z f ku fc b x fc;0UP am IN A RECTANGLE BOX;0OVERLAPPING z SQUARES;2p y SQUARES;1y SQUARES
    0BALLOT BOX b bn X;0cl X;1BOLD X;0y an CENTRED;1dk CENTRED;0bg y PENTAGON;0x y OCTAGON
    0y OCTAGON;1bd gf ah CENTRED;2gc ah CENTRED;2de ah CENTRED;2cc ah CENTRED;0NEPTUNE e bj
    0TOP cd y ao;0fy cd y ao;0bn at ea y CUSP;0bp bn at ea y CUSP;0z at ea CUSP;0bp z at ea CUSP
    0an POSITION INDICATOR;0UNCERTAINTY g;0GROUP ai;0PLUTO e bj;2t;2at;2ay;0TRANSPLUTO;0PROSERPINA
    0ASTRAEA;0HYGIEA;0PHOLUS;0NESSUS;0z MOON SELENA;0y dk ON fr;0TRUE bn MOON ARTA;0CUPIDO;0HADES
    0ZEUS;0KRONOS;0APOLLON;0ADMETOS;0VULCANUS;0POSEIDON;0o cd y gg;0h cd y gg;0gg b o cd y;2h cd y
    0r iu f b ah ARROWHEADS;0ap iu f b ah ARROWHEADS;0k iu f b ah ARROWHEADS
    0aa iu f b ah ARROWHEADS;0ERIS e br;2bj;0SEDNA;0RUSSIAN ASTROLOGICAL w VIGINTILE;3NOVILE
    3QUINTILE;3BINOVILE;3SENTAGON;3TREDECILE;0fm g b INFINITY m;0UNITED w;0SEPARATED w;0DOUBLED w
    0PASSED w;0aq h ep;0HELLSCHREIBER PAUSE w;0GLAGOLITIC c a AZU;3BUKY;3VEDE;3GLAGOLI;3DOBRO
    3YESTU;3ZHIVETE;3DZELO;3ZEMLJA;3IZHE;3s IZHE;3I;3DJERVI;3KAKO;3LJUDIJE;3MYSLITE;3NASHI;3ONU
    3POKOJI;3RITSI;3SLOVO;3TVRIDO;3UKU;3FRITU;3HERU;3OTU;3PE;3SHTA;3TSI;3CHRIVI;3jf;3YERU;3YERI
    3YATI;3SPIDERY HA;3YU;3d YUS;5b gr;3YO;3IOTATED d YUS;3BIG YUS;3IOTATED BIG YUS;3FITA;3IZHITSA
    3SHTAPIC;3TROKUTASTI A;3LATINATE MYSLITE;3CAUDATE CHRIVI;1d a AZU;3BUKY;3VEDE;3GLAGOLI;3DOBRO
    3YESTU;3ZHIVETE;3DZELO;3ZEMLJA;3IZHE;3s IZHE;3I;3DJERVI;3KAKO;3LJUDIJE;3MYSLITE;3NASHI;3ONU
    3POKOJI;3RITSI;3SLOVO;3TVRIDO;3UKU;3FRITU;3HERU;3OTU;3PE;3SHTA;3TSI;3CHRIVI;3jf;3YERU;3YERI
    3YATI;3SPIDERY HA;3YU;3d YUS;5b gr;3YO;3IOTATED d YUS;3BIG YUS;3IOTATED BIG YUS;3FITA;3IZHITSA
    3SHTAPIC;3TROKUTASTI A;3LATINATE MYSLITE;3CAUDATE CHRIVI;0eo c a L b l fc;1d a L b l fc
    1c a L b ad bq;3P b v;3R b gr;1d a A b v;3T b cm v;1c a H b cg;1d a H b cg;1c a K b cg
    1d a K b cg;1c a Z b cg;1d a Z b cg;1c a hj;3M b av;3bg A;4hj;1d a V b h av;1c a W b av
    1d a W b av;3V b CURL;1c a cd H;1d a cd H;3TAILLESS PHI;3E b NOTCH;3bg R b gr;3O b ho di jj
    1a d c bg E;1SUBSCRIPT d a J;0dy a c V;0eo c a S b SWASH gr;3Z b SWASH gr;0hl c a ALFA
    1d a ALFA;1c a VIDA;1d a VIDA;1c a kk;1d a kk;1c a DALDA;1d a DALDA;1c a EIE;1d a EIE;1c a SOU
    1d a SOU;1c a ZATA;1d a ZATA;1c a HATE;1d a HATE;1c a THETHE;1d a THETHE;1c a IAUDA;1d a IAUDA
    1c a KAPA;1d a KAPA;1c a LAULA;1d a LAULA;1c a MI;1d a MI;1c a NI;1d a NI;1c a KSI;1d a KSI
    1c a O;1d a O;1c a PI;1d a PI;1c a RO;1d a RO;1c a SIMA;1d a SIMA;1c a TAU;1d a TAU;1c a UA
    1d a UA;1c a FI;1d a FI;1c a KHI;1d a KHI;1c a PSI;1d a PSI;1c a OOU;1d a OOU;1c a DIALECT-P db
    1d a DIALECT-P db;1c a OLD hl AIN;1d a OLD hl AIN;1c a hz EIE;1d a hz EIE;1c a DIALECT-P KAPA
    1d a DIALECT-P KAPA;1c a DIALECT-P NI;1d a DIALECT-P NI;1c a hz NI;1d a hz NI;1c a OLD hl OOU
    1d a OLD hl OOU;1c a SAMPI;1d a SAMPI;1c a la SHEI;1d a la SHEI;1c a OLD hl SHEI
    1d a OLD hl SHEI;1c a OLD hl ESH;1d a OLD hl ESH;1c a AKHMIMIC KHEI;1d a AKHMIMIC KHEI
    1c a DIALECT-P HORI;1d a DIALECT-P HORI;1c a OLD hl HORI;1d a OLD hl HORI;1c a OLD hl HA
    1d a OLD hl HA;1c a L-SHAPED HA;1d a L-SHAPED HA;1c a OLD hl HEI;1d a OLD hl HEI
    1c a OLD hl HAT;1d a OLD hl HAT;1c a OLD hl GANGIA;1d a OLD hl GANGIA;1c a OLD hl DJA
    1d a OLD hl DJA;1c a OLD hl SHIMA;1d a OLD hl SHIMA;1c a OLD NUBIAN SHIMA;1d a OLD NUBIAN SHIMA
    1c a OLD NUBIAN NGI;1d a OLD NUBIAN NGI;1c a OLD NUBIAN NYI;1d a OLD NUBIAN NYI
    1c a OLD NUBIAN WAU;1d a OLD NUBIAN WAU;1w KAI;2MI RO;2PI RO;2STAUROS;2TAU RO;2KHI RO
    2SHIMA SIMA;1c a hz SHEI;1d a hz SHEI;1c a hz GANGIA;1d a hz GANGIA;1ck NI i;2SPIRITUS ASPER
    3LENIS;1c a BOHAIRIC KHEI;1d a BOHAIRIC KHEI;2CF9:1OLD NUBIAN hf fb;3DIRECT ec ai
    3INDIRECT ec ai;3VERSE DIVIDER;1gq br cd;1hf fb;1MORPHOLOGICAL DIVIDER;0GEORGIAN d a AN;3BAN
    3GAN;3DON;3EN;3VIN;3ZEN;3TAN;3IN;3KAN;3LAS;3MAN;3NAR;3ON;3PAR;3ZHAR;3RAE;3SAN;3TAR;3UN;3PHAR
    3KHAR;3GHAN;3QAR;3lj;3CHIN;3CAN;3JIL;3CIL;3CHAR;3XAN;3JHAN;3HAE;3HE;3HIE;3WE;3HAR;3HOE;2D27:3YN
    2D2D:3AEN;2D30:0TIFINAGH a YA;2YAB;2YABH;2YAG;2YAGHH;2BERBER ACADEMY YAJ;2YAJ;2YAD;2YADH;2YADD
    2YADDH;2YEY;2YAF;2YAK;2TUAREG YAK;2YAKHH;2YAH;2BERBER ACADEMY YAH;2TUAREG YAH;2YAHH;2YAA;2YAKH
    2TUAREG YAKH;2YAQ;2TUAREG YAQ;2YI;2YAZH;2AHAGGAR YAZH;2TUAREG YAZH;2YAL;2YAM;2YAN;2TUAREG YAGN
    3YANG;2YAP;2YU;2YAR;2YARR;2YAGH;2TUAREG YAGH;2AYER YAGH;2YAS;2YASS;2YASH;2YAT;2YATH;2YACH;2YATT
    2YAV;2YAW;2YAY;2YAZ;2TAWELLEMET YAZ;2YAZZ;2YE;2YO;2D6F:1dy a LABIALIZATION ai;1dc ai
    2D7F:1eq JOINER;0ETHIOPIC hm LOA;2MOA;2ROA;2SOA;2SHOA;2BOA;2TOA;2COA;2NOA;2NYOA;2fp OA;2ZOA
    2DOA;2DDOA;2JOA;2THOA;2CHOA;2PHOA;2POA;2GGWA;2GGWI;2GGWEE;2GGWE;2DA0:2SSA;2SSU;2SSI;2SSAA;2SSEE
    2SSE;2SSO;2DA8:2CCA;2CCU;2CCI;2CCAA;2CCEE;2CCE;2CCO;2DB0:2ZZA;2ZZU;2ZZI;2ZZAA;2ZZEE;2ZZE;2ZZO
    2DB8:2CCHA;2CCHU;2CCHI;2CCHAA;2CCHEE;2CCHE;2CCHO;2DC0:2QYA;2QYU;2QYI;2QYAA;2QYEE;2QYE;2QYO
    2DC8:2KYA;2KYU;2KYI;2KYAA;2KYEE;2KYE;2KYO;2DD0:2XYA;2XYU;2XYI;2XYAA;2XYEE;2XYE;2XYO;2DD8:2GYA
    2GYU;2GYI;2GYAA;2GYEE;2GYE;2GYO;2DE0:0ck iv a BE;3VE;3GHE;3DE;3ZHE;3ZE;3KA;3EL;3EM;3EN;3O;3PE
    3ER;3ES;3TE;3HA;3TSE;3CHE;3jf;3SHCHA;3FITA;3ES-TE;3A;3IE;3DJERV;3MONOGRAPH UK;3YAT;3YU;3ht A
    3cz YUS;3BIG YUS;3ht BIG YUS;0h ep SUBSTITUTION MARKER;2ez SUBSTITUTION MARKER
    0o SUBSTITUTION ae;0h SUBSTITUTION ae;0o ez SUBSTITUTION ae;0h ez SUBSTITUTION ae
    0hh INTERPOLATION MARKER;1ez INTERPOLATION MARKER;0ez TRANSPOSITION MARKER;0o TRANSPOSITION ae
    0h TRANSPOSITION ae;0hh an;0o hh OMISSION ae;0h hh OMISSION ae;0EDITORIAL CORONIS;0PARAGRAPHOS
    0FORKED PARAGRAPHOS;0aq FORKED PARAGRAPHOS;0HYPODIASTOLE;0ez OBELOS;0aa ANCORA;0ap ANCORA
    0ez cc ep;0l jq HYPHEN;0ba INTERROBANG;0PALM BRANCH;0HYPHEN b ak;0bq b di i;0o ho PARAPHRASE ae
    0h ho PARAPHRASE ae;0bq b bx i;3m;0o q fc b QUILL;0h q fc b QUILL;0TOP o cd ae;1h cd ae
    0fy o cd ae;1h cd ae;0o SIDEWAYS U ae;0h SIDEWAYS U ae;0o l be;0h l be;0bj cu cv br bx bc
    0br bx cv bj cu bc;0eb at bx bc;0ay bx ai;0aq ec ai;0q bq;0di POINT;0WORD dc ad bx;0bg dq
    0hh bx;1dq;0bg iz;0DAGGER b o GUARD;2h GUARD;0bg DAGGER;0TOP cd gi g;0TWO-EM im;0THREE-EM im
    0STENOGRAPHIC hf fb;0q eu cu;0WIGGLY q ey;0CAPITULUM;0l HYPHEN;0aq dq;0l LOW-REVERSED-9 dh ai
    0im b o UPTURN;0l SUSPENSION ai;0ba ho KAVYKA;3b KAVYKA i;0ho KAVYKA;2b bx;0l STACKED dq;0ez gh
    0dr DAGGER;0MEDIEVAL dq;0PARAGRAPHUS ai;0PUNCTUS ELEVATUS ai;0CORNISH VERSE DIVIDER
    0fr PATTY b h CROSSBAR;3o CROSSBAR;0TIRONIAN g c ET;0MEDIEVAL cy ai;1ec ai;0o an ae b v
    0h an ae b v;0o an ae b l v;0h an ae b l v;0TOP cd o be;2h be;0fy cd o be;2h be;0jq HYPHEN"

end Laminar.Text
