/-!
# Names of characters: old scripts

The names of old and rare scripts, U+10000 to U+1CFFF (Unicode 14).  `CharacterName` says how
the table is read.
-/

namespace Laminar.Text

/-- Names of old and rare scripts, U+10000 to U+1CFFF. -/
def oldScriptNames : String :=
  "10000:0LINEAR B hm B008 A;3B038 E;3B028 I;3B061 O;3B010 U;3B001 DA;3B045 DE;3B007 DI;3B014 DO
    3B051 DU;3B057 JA;3B046 JE;1000D:3B036 JO;3B065 JU;3B077 KA;3B044 KE;3B067 KI;3B070 KO;3B081 KU
    3B080 MA;3B013 ME;3B073 MI;3B015 MO;3B023 MU;3B006 NA;3B024 NE;3B030 NI;3B052 NO;3B055 NU
    3B003 PA;3B072 PE;3B039 PI;3B011 PO;3B050 PU;3B016 QA;3B078 QE;3B021 QI;3B032 QO;10028:3B060 RA
    3B027 RE;3B053 RI;3B002 RO;3B026 RU;3B031 SA;3B009 SE;3B041 SI;3B012 SO;3B058 SU;3B059 TA
    3B004 TE;3B037 TI;3B005 TO;3B069 TU;3B054 WA;3B075 WE;3B040 WI;3B042 WO;1003C:3B017 ZA;3B074 ZE
    1003F:3B020 ZO;3B025 A2;3B043 A3;3B085 AU;3B071 DWE;3B090 DWO;3B048 NWA;3B029 PU2;3B062 PTE
    3B076 RA2;3B033 RA3;3B068 RO2;3B066 TA2;3B087 TWE;3B091 bj;10050:2w B018;3B019;3B022;3B034
    3B047;3B049;3B056;3B063;3B064;3B079;3B082;3B083;3B086;3B089;10080:2IDEOGRAM B100 MAN
    3B102 WOMAN;3B104 DEER;3B105 EQUID;3B105F MARE;3B105M STALLION;3B106F EWE;3B106M RAM
    3B107F SHE-GOAT;3B107M HE-GOAT;3B108F SOW;3B108M BOAR;3B109F COW;3B109M BULL;3B120 WHEAT
    3B121 BARLEY;3B122 OLIVE;3B123 SPICE;3B125 CYPERUS;2MONOGRAM B127 KAPO;3B128 KANAKO
    2IDEOGRAM B130 OIL;3B131 WINE;3B132;2MONOGRAM B133 AREPA;3B135 MERI;2IDEOGRAM B140 BRONZE
    3B141 GOLD;3B142;3B145 WOOL;3B146;3B150;3B151 jw;3B152>3;2MONOGRAM B156 TURO2;2IDEOGRAM B157
    3B158;3B159 CLOTH;3B160;3B161;3B162 GARMENT;3B163 ARMOUR;3B164>9;3B173 MONTH;3B174;3B176 TREE
    3B177>9;3B189;3B190;3B191 HELMET;3B220 FOOTSTOOL;3B225 BATHTUB;3B230 SPEAR;3B231 f;3B232
    3B233 SWORD;3B234;3B236;3B240 WHEELED CHARIOT;3B241 CHARIOT;3B242 CHARIOT FRAME;3B243 WHEEL
    3B245;3B246;2MONOGRAM B247 DIPTE;2IDEOGRAM B248;3B249;3B251>3;3B254 DART;3B255>5;3VESSEL B155
    4B200>20;4B221;4B222;4B226>4;4B250;4B305;10100:0AEGEAN WORD dc ey;3bx;1CHECK ai;10107:1cq br
    2bj;2t;2at;2ay;2eu;2au;2ar;2cj;2io;2em;2ih;2FORTY;2hn;2SIXTY;2eh;2EIGHTY;2fa;2br ab;2bj ab
    2t ab;2at ab;2ay ab;2eu ab;2au ab;2ar ab;2cj ab;2br ac;2bj ac;2t ac;2at ac;2ay ac;2eu ac;2au ac
    2ar ac;2cj ac;2io ac;2em ac;2ih ac;2FORTY ac;2hn ac;2SIXTY ac;2eh ac;2EIGHTY ac;2fa ac
    10137:1WEIGHT BASE UNIT;2FIRST SUBUNIT;2SECOND SUBUNIT;2THIRD SUBUNIT;2FOURTH SUBUNIT
    1DRY MEASURE FIRST SUBUNIT;1LIQUID MEASURE FIRST SUBUNIT;1MEASURE SECOND SUBUNIT;2THIRD SUBUNIT
    0jg ACROPHONIC ATTIC br ek;4cd;4DRACHMA;3ay;3hn;3ay ab;4ac;3hn ac;3ay TALENTS;3io TALENTS
    3hn TALENTS;3br ab TALENTS;3ay ab TALENTS;3br ac TALENTS;3ay ac TALENTS;4STATERS;3io STATERS
    3hn STATERS;3br ab STATERS;3ay ab STATERS;3br ac STATERS;3io ac STATERS;3hn ac STATERS;3io MNAS
    2HERAEUM br PLETHRON;2THESPIAN br;2HERMIONIAN br;2EPIDAUREAN bj;2THESPIAN bj
    2CYRENAIC bj DRACHMAS;2EPIDAUREAN bj DRACHMAS;2TROEZENIAN ay;3io;4er e;2HERMIONIAN io
    2MESSENIAN io;2THESPIAN io;3ih;2TROEZENIAN hn;4er e;2HERMIONIAN hn;2THESPIAN hn;3br ab;3t ab
    2EPIDAUREAN ay ab;2TROEZENIAN ay ab;2THESPIAN ay ab;2CARYSTIAN ay ab;2NAXIAN ay ab
    2THESPIAN br ac;3ay ac;2DELPHIC ay MNAS;2STRATIAN hn MNAS;1br cd g;4er e;1bj THIRDS g;1t ig g
    1YEAR g;1TALENT g;1DRACHMA g;1OBOL g;1bj OBOLS g;1t OBOLS g;1at OBOLS g;1ay OBOLS g;1METRETES g
    1KYATHOS BASE g;1LITRA g;1OUNKIA g;1XESTES g;1ARTABE g;1AROURA g;1GRAMMA g;1TRYBLION BASE g
    1dt g;1br ek g;1SINUSOID g;1INDICTION g;0NOMISMA g;10190:0ROMAN SEXTANS g;1UNCIA g;1SEMUNCIA g
    1SEXTULA g;1DIMIDIA SEXTULA g;1SILIQUA g;1DENARIUS g;1QUINARIUS g;1SESTERTIUS g;1DUPONDIUS g
    1AS g;1CENTURIAL g;0ASCIA w;101A0:0jg w TAU RHO;101D0:0PHAISTOS DISC g PEDESTRIAN;3PLUMED HEAD
    3TATTOOED HEAD;3CAPTIVE;3CHILD;3WOMAN;3HELMET;3GAUNTLET;3TIARA;3f;3BOW;3SHIELD;3CLUB;3MANACLES
    3MATTOCK;3SAW;3LID;3BOOMERANG;3CARPENTRY PLANE;3DOLIUM;3COMB;3SLING;3COLUMN;3BEEHIVE;3SHIP;3jw
    3HIDE;3BULLS LEG;3CAT;3RAM;3EAGLE;3DOVE;3TUNNY;3BEE;3PLANE TREE;3VINE;3PAPYRUS;3ROSETTE;3LILY
    3OX BACK;3FLUTE;3GRATER;3STRAINER;3d AXE;3WAVY BAND;3ck jq v;10280:0LYCIAN a A;2E;2B;2BH;2G;2D
    2I;2W;2Z;2TH;2J;2K;2Q;2L;2M;2N;2MM;2NN;2U;2P;2KK;2R;2S;2T;2TT;2AN;2EN;2H;2X;102A0:0CARIAN a A
    2P2;2D;2L;2UUU;2R;2LD;2A2;2Q;2B;2M;2O;2D2;2T;2SH;2SH2;2S;2C-18;2U;2NN;2X;2N;2TT2;2P;2SS;2I;2E
    2UUUU;2K;2K2;2ND;2UU;2G;2G2;2ST;2ST2;2NG;2II;2C-39;2TT;2UUU2;2RR;2MB;2MB2>3;2LD2;2E2;2UUU3
    102E0:0hl EPACT THOUSANDS ai;2bs br;3bj;3t;3at;3ay;3eu;3au;3ar;3cj;2cq io;3em;3ih;3FORTY;3hn
    3SIXTY;3eh;3EIGHTY;3fa;3br ab;3bj ab;3t ab;3at ab;3ay ab;3eu ab;3au ab;3ar ab;3cj ab
    10300:0OLD ITALIC a A;3BE;3KE;3DE;3E;3VE;3ZE;3HE;3THE;3I;3KA;3EL;3EM;3EN;3ESH;3O;3PE;3SHE;3KU
    3ER;3ES;3TE;3U;3EKS;3PHE;3KHE;3EF;3ERS;3CHE;3II;3UU;3ESS;2NUMERAL br;3ay;3io;3hn;1032D:2a YE
    3NORTHERN TSE;3SOUTHERN TSE;0GOTHIC a AHSA;2BAIRKAN;2GIBA;2DAGS;2AIHVUS;2QAIRTHRA;2IUJA;2HAGL
    2THIUTH;2EIS;2KUSMA;2LAGUS;2MANNA;2NAUTHS;2JER;2URUS;2PAIRTHRA;2fa;2RAIDA;2SAUIL;2TEIWS;2WINJA
    2FAIHU;2IGGWS;2HWAIR;2OTHAL;2cj ab;10350:0OLD PERMIC a AN;3BUR;3GAI;3DOI;3E;3ZHOI;3DZHOI;3ZATA
    3DZITA;3I;3KOKE;3LEI;3MENOE;3NENOE;3VOOI;3PEEI;3REI;3SII;3TAI;3U;3CHERY;3SHOOI;3SHCHOOI;3YRY
    3YERU;3O;3OO;3EF;3HA;3TSIU;3VER;3YER;3YERI;3YAT;3IE;3YU;3YA;3IA;0ck OLD PERMIC a AN;4DOI;4ZATA
    4NENOE;4SII;10380:0UGARITIC a ALPA;2BETA;2GAMLA;2ke;2ll;2HO;2WO;2ZETA;2HOTA;2TET;2YOD;2KAF;2lj
    2LAMDA;2MEM;2DHAL;2NUN;2ZU;2SAMKA;2AIN;2PU;2SADE;2QOPA;2RASHA;2THANNA;2GHAIN;2TO;2I;2U;2SSU
    1039F:1WORD DIVIDER;0OLD PERSIAN g A;3I;3U;3KA;3KU;3GA;3GU;3XA;3CA;3JA;3JI;3TA;3TU;3DA;3DI;3DU
    3ks;3PA;3BA;3FA;3NA;3NU;3MA;3MI;3MU;3YA;3VA;3VI;3RA;3RU;3LA;3SA;3ZA;3jf;3SSA;3HA
    103C8:3AURAMAZDAA;3AURAMAZDAA-2;3AURAMAZDAAHA;3XSHAAYATHIYA;3DAHYAAUSH;3DAHYAAUSH-2;3BAGA
    3BUUMISH;2WORD DIVIDER;2cq br;3bj;3io;3em;3ab;10400:0DESERET c a ej I;4E;4A;4AH;4O;4OO;3es I;4E
    4A;4AH;4O;4OO;3AY;3OW;3WU;3YEE;3H;3PEE;3BEE;3TEE;3DEE;3CHEE;3JEE;3KAY;3GAY;3EF;3VEE;3ETH;3THEE
    3ES;3ZEE;3ESH;3ZHEE;3ER;3EL;3EM;3EN;3ENG;3OI;3EW;1d a ej I;4E;4A;4AH;4O;4OO;3es I;4E;4A;4AH;4O
    4OO;3AY;3OW;3WU;3YEE;3H;3PEE;3BEE;3TEE;3DEE;3CHEE;3JEE;3KAY;3GAY;3EF;3VEE;3ETH;3THEE;3ES;3ZEE
    3ESH;3ZHEE;3ER;3EL;3EM;3EN;3ENG;3OI;3EW;0SHAVIAN a PEEP;2TOT;2KICK;2FEE;2THIGH;2SO;2SURE
    2CHURCH;2YEA;2HUNG;2BIB;2DEAD;2GAG;2VOW;2THEY;2ZOO;2MEASURE;2JUDGE;2WOE;2HA-HA;2LOLL;2MIME;2IF
    2EGG;2ASH;2ADO;2ON;2WOOL;2OUT;2AH;2ROAR;2NUN;2EAT;2AGE;2ICE;2UP;2OAK;2OOZE;2OIL;2AWE;2ARE;2OR
    2AIR;2ERR;2ARRAY;2EAR;2IAN;2YEW;0OSMANYA a db;2BA;2TA;2JA;2XA;2ke;2DEEL;2RA;2SA;2SHIIN;2DHA
    2CAYN;2GA;2FA;2QAAF;2KAAF;2LAAN;2MIIN;2NUUN;2WAW;2HA;2YA;2A;2E;2I;2O;2U;2AA;2EE;2OO
    104A0:1bs dt;2br;2bj;2t;2at;2ay;2eu;2au;2ar;2cj;104B0:0OSAGE c a A;3AI;3AIN;3AH;3BRA;3jy;3EHCHA
    3E;3EIN;3HA;3HYA;3I;3KA;3EHKA;3KYA;3LA;3MA;3NA;3O;3OIN;3PA;3EHPA;3SA;3jf;3TA;3EHTA;3TSA;3EHTSA
    3TSHA;3DHA;3U;3WA;3ke;3GHA;3ZA;3ZHA;104D8:1d a A;3AI;3AIN;3AH;3BRA;3jy;3EHCHA;3E;3EIN;3HA;3HYA
    3I;3KA;3EHKA;3KYA;3LA;3MA;3NA;3O;3OIN;3PA;3EHPA;3SA;3jf;3TA;3EHTA;3TSA;3EHTSA;3TSHA;3DHA;3U;3WA
    3ke;3GHA;3ZA;3ZHA;10500:0ELBASAN a A;2BE;2CE;2CHE;2DE;2NDE;2DHE;2EI;2E;2FE;2GE;2GJE;2HE;2I;2JE
    2KE;2LE;2LLE;2ME;2NE;2NA;2NJE;2O;2PE;2QE;2RE;2RRE;2SE;2SHE;2TE;2THE;2U;2VE;2XE;2Y;2ZE;2ZHE;2GHE
    2GHAMMA;2KHE;10530:0CAUCASIAN ALBANIAN a ALT;3BET;3GIM;3DAT;3EB;3ZARL;3EYN;3ZHIL;3TAS;3jy;3YOWD
    3ZHA;3IRB;3jf;3LAN;3INYA;3XEYN;3DYAN;3CAR;3JHOX;3KAR;3LYIT;3HEYT;3QAY;3AOR;3CHOY;3CHI;3CYAY
    3MAQ;3QAR;3NOWC;3DZYAY;3SHAK;3JAYN;3ON;3TYAY;3FAM;3DZAY;3CHAT;3PEN;3GHEYS;3RAT;3SEYK;3VEYZ
    3TIWR;3SHOY;3IWN;3CYAW;3CAYN;3YAYD;3PIWR;3KIW;1056F:2CITATION ai;0VITHKUQI c a A;3BBE;3BE;3CE
    3CHE;3DE;3DHE;3EI;3E;3FE;3GA;1057C:3HA;3HHA;3I;3IJE;3JE;3KA;3LA;3LLA;3ME;3NE;3NJE;3O;3PE;3QA
    3RE;1058C:3SE;3SHE;3TE;3THE;3U;3VE;3XE;10594:3Y;3ZE;10597:1d a A;3BBE;3BE;3CE;3CHE;3DE;3DHE;3EI
    3E;3FE;3GA;105A3:3HA;3HHA;3I;3IJE;3JE;3KA;3LA;3LLA;3ME;3NE;3NJE;3O;3PE;3QA;3RE;105B3:3SE;3SHE
    3TE;3THE;3U;3VE;3XE;105BB:3Y;3ZE;10600:0LINEAR A g AB001>11;3AB013;3AB016;3AB017;3AB020;3AB021
    3AB021F;3AB021M;3AB022;3AB022F;3AB022M;3AB023;3AB023M;3AB024;3AB026>3;3A028B;3AB029>3;3AB034
    3AB037>5;3AB044>8;3AB053>9;3AB065>3;3AB069;3AB070;3AB073;3AB074;3AB076>7;3AB085>3;3A100-102
    3AB118;3AB120;3A120B;3AB122;3AB123;3AB131A;3AB131B;3A131C;3AB164;3AB171;3AB180;3AB188;3AB191
    3A301>8;3A309A;3A309B;3A309C;3A310>3;3A313A;3A313B;3A313C;3A314>58;3A400-VAS;3A401-VAS
    3A402-VAS;3A403-VAS;3A404-VAS;3A405-VAS;3A406-VAS;3A407-VAS;3A408-VAS;3A409-VAS;3A410-VAS
    3A411-VAS;3A412-VAS;3A413-VAS;3A414-VAS;3A415-VAS;3A416-VAS;3A417-VAS;3A418-VAS;3A501>6;3A508>6
    3A515;3A516;3A520;3A521;3A523>10;3A534>9;3A545;3A547>11;3A559;3A563>4;3A568>22;3A591;3A592
    3A594>3;3A598;3A600>5;3A606;3A608>17;3A626>4;3A634;3A637;3A638;3A640;3A642>5;3A648;3A649
    3A651>14;10740:3A701 A;3A702 B;3A703 D;3A704 E;3A705 F;3A706 H;3A707 J;3A708 K;3A709 L
    3A709-2 L2;3A709-3 L3;3A709-4 L4;3A709-6 L6;3A710 W;3A711 X;3A712 Y;3A713 gm;3A714 ABB;3A715 BB
    3A717 DD;3A726 EYYY;3A732 JE;10760:3A800>8;10780:0dy a d c AA;2gp ee hp;3cd ee hp;2d AE;3c B
    3B b av;10787:3DZ fq;5b ca av;6CURL;3DEZH fq;3D b gr;5av;6p gr;3aq E;3fn aq eg E;3FENG fq
    3RAMS jw;3c G;3G b av;3c G b av;3H b v;3c H;3HENG b av;3ka J b v p av;3LS fq;3LZ fq;3L b BELT
    3c L b BELT;3L b ca av p BELT;3LEZH;4b ca av;3bg Y;5b BELT;3O b v;3c OE;3fn gm;3Q
    3bg R b ej LEG;8p ca av;3R b gr;5FISHHOOK;3c R;3TC fq b CURL;3TS fq;5b ca av;3TESH fq
    3T b ca av;3V b h av;107B2:3c Y;2fp fb b v;2aq fp fb b v;2BILABIAL CLICK;2DENTAL CLICK
    2LATERAL CLICK;2ALVEOLAR CLICK;2ca CLICK b ca av;2d S b CURL;10800:0CYPRIOT hm A;2E;2I;2O;2U
    2JA;10808:2JO;1080A:2KA;2KE;2KI;2KO;2KU;2LA;2LE;2LI;2LO;2LU;2MA;2ME;2MI;2MO;2MU;2NA;2NE;2NI;2NO
    2NU;2PA;2PE;2PI;2PO;2PU;2RA;2RE;2RI;2RO;2RU;2SA;2SE;2SI;2SO;2SU;2TA;2TE;2TI;2TO;2TU;2WA;2WE;2WI
    2WO;10837:2XA;2XE;1083C:2ZA;1083F:2ZO;0IMPERIAL ARAMAIC a ALEPH;3BETH;3GIMEL;3DALETH;3HE;3WAW
    3ZAYIN;3HETH;3TETH;3YODH;3KAPH;3LAMEDH;3MEM;3NUN;3kr;3AYIN;3PE;3SADHE;3QOPH;3RESH;3lj;3TAW
    10857:2gi g;2cq br;3bj;3t;3io;3em;3br ab;4ac;3io ac;0PALMYRENE a ALEPH;2BETH;2GIMEL;2DALETH;2HE
    2WAW;2ZAYIN;2HETH;2TETH;2YODH;2KAPH;2LAMEDH;2MEM;2n NUN;2NUN;2kr;2AYIN;2PE;2SADHE;2QOPH;2RESH
    2lj;2TAW;1de FLEURON;1cc FLEURON;1cq br;2bj;2t;2at;2ay;2io;2em;0NABATAEAN a n ALEPH;2ALEPH
    2n BETH;2BETH;2GIMEL;2DALETH;2n HE;2HE;2WAW;2ZAYIN;2HETH;2TETH;2n YODH;2YODH;2n KAPH;2KAPH
    2n LAMEDH;2LAMEDH;2n MEM;2MEM;2n NUN;2NUN;2kr;2AYIN;2PE;2SADHE;2QOPH;2RESH;2n lj;2lj;2TAW
    108A7:1cq br;2bj;2t;2at;1CRUCIFORM cq at;1cq ay;2io;2em;2br ab;108E0:0HATRAN a ALEPH;2BETH
    2GIMEL;2DALETH-RESH;2HE;2WAW;2ZAYN;2HETH;2TETH;2YODH;2KAPH;2LAMEDH;2MEM;2NUN;2kr;2AYN;2PE
    2SADHE;2QOPH;108F4:2lj;2TAW;108FB:1cq br;2ay;2io;2em;2br ab;0PHOENICIAN a ALF;2BET;2GAML;2DELT
    2HE;2WAU;2ZAI;2HET;2TET;2YOD;2KAF;2LAMD;2MEM;2NUN;2SEMK;2AIN;2PE;2SADE;2QOF;2ROSH;2lj;2TAU
    1cq br;2io;2em;2br ab;2bj;2t;1091F:1WORD dc;0LYDIAN a A;2B;2G;2D;2E;2V;2I;2Y;2K;2L;2M;2N;2O;2R
    2SS;2T;2U;2F;2Q;2S;2TT;2AN;2EN;2LY;2NN;2C;1093F:1ee ai;10980:0MEROITIC HIEROGLYPHIC a A;3E;3I
    3O;3YA;3WA;3BA;3BA-2;3PA;3MA;3NA;3NA-2;3NE;3NE-2;3RA;3RA-2;3LA;3ke;3HHA;3SA;3SA-2;3SE;3KA;3QA
    3TA;3TA-2;3TE;3TE-2;3TO;3DA;2w VIDJ;3VIDJ-2;1CURSIVE a A;3E;3I;3O;3YA;3WA;3BA;3PA;3MA;3NA;3NE
    3RA;3LA;3ke;3HHA;3SA;3hs SA;3SE;3KA;3QA;3TA;3TE;3TO;3DA;109BC:2gq ELEVEN TWELFTHS;3br cd
    2LOGOGRAM RMT;3IMN;2cq br;3bj;3t;3at;3ay;3eu;3au;3ar;3cj;3io;3em;3ih;3FORTY;3hn;3SIXTY;3eh
    109D2:3br ab;3bj ab;3t ab;3at ab;3ay ab;3eu ab;3au ab;3ar ab;3cj ab;3br ac;3bj ac;3t ac;3at ac
    3ay ac;3eu ac;3au ac;3ar ac;3cj ac;3io ac;3em ac;3ih ac;3FORTY ac;3hn ac;3SIXTY ac;3eh ac
    3EIGHTY ac;3fa ac;3br ab ac;3bj ab ac;3t ab ac;3at ab ac;3ay ab ac;3eu ab ac;3au ab ac
    3ar ab ac;3cj ab ac;2gq br TWELFTH;3bj TWELFTHS;3t TWELFTHS;3at TWELFTHS;3ay TWELFTHS
    3eu TWELFTHS;3au TWELFTHS;3ar TWELFTHS;3cj TWELFTHS;3io TWELFTHS;0KHAROSHTHI a A;1bm g I;3U
    3bz R;10A05:3E;3O;10A0C:2LENGTH ai;1g l di m;2bv;2dx;1a KA;2ke;2GA;2GHA;10A15:2CA;2jy;2JA
    10A19:2kb;2TTA;2il;2DDA;2iw;2NNA;2TA;2ks;2DA;2DHA;2NA;2PA;2PHA;2BA;2BHA;2MA;2YA;2RA;2LA;2VA;2jf
    2SSA;2SA;2ZA;2HA;2KKA;2TTTHA;2TTTA;2VHA;10A38:1g fc i;2CAUDA;2bx m;10A3F:1el;1bs br;2bj;2t;2at
    1cq io;2em;2br ab;3ac;1gq br cd;10A50:1bc bx;2d ao;2ao;2CRESCENT fc;2MANGALAM;2LOTUS;2ic;2l ic
    2LINES;10A60:0OLD fu ARABIAN a HE;4LAMEDH;4HETH;4MEM;4QOPH;4WAW;4lj;4RESH;4BETH;4TAW;4SAT;4KAPH
    4NUN;4KHETH;4SADHE;4kr;4FE;4db;4AYN;4DHADHE;4GIMEL;4DALETH;4GHAYN;4TETH;4ZAYN;4DHALETH;4YODH
    4THAW;4THETH;3cq br;4hn;3NUMERIC INDICATOR;1fg ARABIAN a HEH;4LAM;4hv;4bu;4QAF;4WAW;4ES-2;4REH
    4BEH;4TEH;4ES-1;4KAF;4jb;4gv;4SAD;4ES-3;4FEH;4db;4AIN;4DAD;4GEEM;4DAL;4GHAIN;4TAH;4ZAIN;4THAL
    4ge;4THEH;4ZAH;3cq br;4io;4em;10AC0:0MANICHAEAN a ALEPH;2BETH;2BHETH;2GIMEL;2GHIMEL;2DALETH;2HE
    2WAW;1g UD;1a ZAYIN;2ZHAYIN;2JAYIN;2JHAYIN;2HETH;2TETH;2YODH;2KAPH;2XAPH;2KHAPH;2LAMEDH
    2DHAMEDH;2THAMEDH;2MEM;2NUN;2kr;2AYIN;2AAYIN;2PE;2FE;2SADHE;2QOPH;2XOPH;2QHOPH;2RESH;2lj;2SSHIN
    2TAW;1dz ai i;3m;10AEB:1cq br;2ay;2io;2em;2br ab;1bc gg;2FLEURON;2l bx WITHIN bx;2bx WITHIN bx
    2bx;2bj cu;2ey FILLER;10B00:0AVESTAN a A;2AA;2AO;2AAO;2AN;2AAN;2AE;2AEE;2E;2EE;2O;2OO;2I;2II;2U
    2UU;2KE;2XE;2XYE;2XVE;2GE;2GGE;2GHE;2CE;2JE;2TE;2THE;2DE;2DHE;2TTE;2PE;2FE;2BE;2BHE;2NGE;2NGYE
    2NGVE;2NE;2NYE;2NNE;2ME;2HME;2YYE;2YE;2VE;2RE;2LE;2SE;2ZE;2SHE;2ZHE;2SHYE;2SSHE;2HE
    10B39:1dz ai;0TINY bj cu cv br bx bc;0d bj cu cv br bx bc;0dd bj cu cv br bx bc
    1br bx cv bj cu bc;1bj RINGS cv br di bc;1br di cv bj RINGS bc;0INSCRIPTIONAL PARTHIAN a ALEPH
    3BETH;3GIMEL;3DALETH;3HE;3WAW;3ZAYIN;3HETH;3TETH;3YODH;3KAPH;3LAMEDH;3MEM;3NUN;3kr;3AYIN;3PE
    3SADHE;3QOPH;3RESH;3lj;3TAW;10B58:2cq br;3bj;3t;3at;3io;3em;3br ab;4ac;1PAHLAVI a ALEPH;3BETH
    3GIMEL;3DALETH;3HE;3WAW-AYIN-RESH;3ZAYIN;3HETH;3TETH;3YODH;3KAPH;3LAMEDH;3MEM-QOPH;3NUN;3kr;3PE
    3SADHE;3lj;3TAW;10B78:2cq br;3bj;3t;3at;3io;3em;3br ab;4ac;0PSALTER PAHLAVI a ALEPH;3BETH
    3GIMEL;3DALETH;3HE;3WAW-AYIN-RESH;3ZAYIN;3HETH;3YODH;3KAPH;3LAMEDH;3MEM-QOPH;3NUN;3kr;3PE
    3SADHE;3lj;3TAW;10B99:2gi ai;2bg gi ai;2at cu b fr;5bx;10BA9:2cq br;3bj;3t;3at;3io;3em;3br ab
    10C00:0OLD TURKIC a gl A;3fs A;4AE;3gl I;3fs I;4E;3gl O;4OE;3fs OE;3gl AB;3fs AB;3gl AEB
    3fs AEB;3gl AG;3fs AG;3gl AEG;3fs AEG;3gl AD;3fs AD;3gl AED;4EZ;3fs EZ;3gl AY;3fs AY;3gl AEY
    3fs AEY;3gl AEK;3fs AEK;3gl OEK;3fs OEK;3gl AL;3fs AL;3gl AEL;4ELT;4EM;4AN;4AEN;3fs AEN;3gl ENT
    3fs ENT;3gl ENC;3fs ENC;3gl ENY;3fs ENY;4ANG;3gl ENG;3fs AENG;3gl EP;4OP;4IC;4EC;3fs EC;3gl AQ
    3fs AQ;3gl IQ;3fs IQ;3gl OQ;3fs OQ;3gl AR;3fs AR;3gl AER;4AS;4AES;4ASH;3fs ASH;3gl ESH;3fs ESH
    3gl AT;3fs AT;3gl AET;3fs AET;3gl OT;4BASH;10C80:1HUNGARIAN c a A;4AA;4EB;4AMB;4EC;4ENC;4ECS
    4ED;4p;4E;4CLOSE E;4EE;4EF;4EG;4EGY;4EH;4I;4II;4EJ;4EK;4AK;4UNK;4EL;4ELY;4EM;4EN;4ENY;4O;4OO
    4NIKOLSBURG OE;4RUDIMENTA OE;4OEE;4EP;4EMP;4ER;4es ER;4ES;4ESZ;4ET;4ENT;4ETY;4ECH;4U;4UU
    4NIKOLSBURG UE;4RUDIMENTA UE;4EV;4EZ;4EZS;4ENT-SHAPED g;4US;10CC0:2d a A;4AA;4EB;4AMB;4EC;4ENC
    4ECS;4ED;4p;4E;4CLOSE E;4EE;4EF;4EG;4EGY;4EH;4I;4II;4EJ;4EK;4AK;4UNK;4EL;4ELY;4EM;4EN;4ENY;4O
    4OO;4NIKOLSBURG OE;4RUDIMENTA OE;4OEE;4EP;4EMP;4ER;4es ER;4ES;4ESZ;4ET;4ENT;4ETY;4ECH;4U;4UU
    4NIKOLSBURG UE;4RUDIMENTA UE;4EV;4EZ;4EZS;4ENT-SHAPED g;4US;10CFA:2cq br;3ay;3io;3hn;3br ab;4ac
    0HANIFI ROHINGYA a A;3BA;3PA;3TA;3TTA;3JA;3CA;3HA;3ke;3FA;3DA;3DDA;3RA;3RRA;3ZA;3SA;3jf;3KA;3GA
    3LA;3MA;3NA;3WA;3KINNA WA;3YA;3KINNA YA;3je;3kb;3VA;2bm A;3I;3U;3E;3O;2ai SAKIN;3NA KHONNA
    2g HARBAHAY;3TAHALA;3TANA;3TASSI;10D30:2bs dt;3br;3bj;3t;3at;3ay;3eu;3au;3ar;3cj
    10E60:0RUMI bs br;2bj;2t;2at;2ay;2eu;2au;2ar;2cj;1cq io;2em;2ih;2FORTY;2hn;2SIXTY;2eh;2EIGHTY
    2fa;2br ab;2bj ab;2t ab;2at ab;2ay ab;2eu ab;2au ab;2ar ab;2cj ab;1gq br cd;3ek;3THIRD
    2bj THIRDS;10E80:0YEZIDI a ELIF;2BE;2PE;2PHE;2THE;2SE;2CIM;2CHIM;2CHHIM;2HHA;2XA;2DAL;2ZAL;2RA
    2RHA;2ZA;2JA;2SIN;2lj;2SAD;2DAD;2TA;2ZE;2EYN;2XHEYN;2FA;2VA;3er e;2QAF;2KAF;2KHAF;2GAF;2LAM
    2MIM;2NUN;2UM;2WAW;2OW;2EW;2HAY;2YOT;2ET;10EAB:1ck gy ai;2MADDA ai;1HYPHENATION ai
    10EB0:1a LAM b bx i;2YOT b af i;10F00:0OLD SOGDIAN a ALEPH;3n ALEPH;3BETH;3n BETH;3GIMEL;3HE
    3n HE;3WAW;3ZAYIN;3HETH;3YODH;3KAPH;3LAMEDH;3MEM;3NUN;3n NUN;5b q gr;3kr;3AYIN;3er AYIN;3PE
    3SADHE;3n SADHE;5b q gr;3RESH-AYIN-DALETH;3lj;3TAW;3n TAW;5b q gr;2cq br;3bj;3t;3at;3ay;3io;3em
    3ih;3br ab;2gq br cd;2dl AYIN-DALETH;10F30:0SOGDIAN a ALEPH;2BETH;2GIMEL;2HE;2WAW;2ZAYIN;2HETH
    2YODH;2KAPH;2LAMEDH;2MEM;2NUN;2kr;2AYIN;2PE;2SADHE;2RESH-AYIN;2lj;2TAW;2FETH;2LESH;1kl lj
    1ck bx m;2bj cu m;2bx i;2bj cu i;2CURVE i;3m;2av i;3m;2ej av m;2RESH m;2v m;1cq br;2io;2em
    2br ab;1bc bj q BARS;5b cu;2ao b bx;2bj lg b cu;2cd ao b bx;10F70:0OLD UYGHUR a ALEPH;3BETH
    3GIMEL-HETH;3WAW;3ZAYIN;3n HETH;3YODH;3KAPH;3LAMEDH;3MEM;3NUN;3kr;3PE;3SADHE;3RESH;3lj;3TAW
    3LESH;2ck bx i;4m;3bj cu i;5m;2bc fc;3bj BARS;4cu;3at cu;10FB0:0CHORASMIAN a ALEPH;2d ALEPH
    2BETH;2GIMEL;2DALETH;2HE;2WAW;2CURLED WAW;2ZAYIN;2HETH;2YODH;2KAPH;2LAMEDH;2MEM;2NUN;2kr;2AYIN
    2PE;2RESH;2lj;2TAW;1cq br;2bj;2t;2at;2io;2em;2br ab;10FE0:0ELYMAIC a ALEPH;2BETH;2GIMEL;2DALETH
    2HE;2WAW;2ZAYIN;2HETH;2TETH;2YODH;2KAPH;2LAMEDH;2MEM;2NUN;2kr;2AYIN;2PE;2SADHE;2QOPH;2RESH;2lj
    2TAW;1dl ZAYIN-YODH;11000:0BRAHMI g ci;2bv;2dx;2JIHVAMULIYA;2UPADHMANIYA;1a A;2AA;2I;2II;2U;2UU
    2bz R;3RR;3L;3LL;2E;2AI;2O;2AU;2KA;2ke;2GA;2GHA;2je;2CA;2jy;2JA;2JHA;2kb;2TTA;2il;2DDA;2iw;2NNA
    2TA;2ks;2DA;2DHA;2NA;2PA;2PHA;2BA;2BHA;2MA;2YA;2RA;2LA;2VA;2jf;2SSA;2SA;2HA;2LLA
    2OLD TAMIL LLLA;4RRA;4NNNA;1bm g AA;3BHATTIPROLU AA;3I;3II;3U;3UU;3bz R;4RR;4L;4LL;3E;3AI;3O
    3AU;1el;1ic;1l ic;1bc bx;2l bx;2ey;2CRESCENT fc;2LOTUS;11052:1cq br;2bj;2t;2at;2ay;2eu;2au;2ar
    2cj;2io;2em;2ih;2FORTY;2hn;2SIXTY;2eh;2EIGHTY;2fa;2br ab;3ac;1bs dt;2br;2bj;2t;2at;2ay;2eu;2au
    2ar;2cj;1g OLD TAMIL el;1a OLD TAMIL es E;5O;1bm g OLD TAMIL es E;6O;1a OLD TAMIL LLA
    1107F:1cq JOINER;0KAITHI g ci;2bv;2dx;1a A;2AA;2I;2II;2U;2UU;2E;2AI;2O;2AU;2KA;2ke;2GA;2GHA;2je
    2CA;2jy;2JA;2JHA;2kb;2TTA;2il;2DDA;2DDDHA;2iw;2RHA;2NNA;2TA;2ks;2DA;2DHA;2NA;2PA;2PHA;2BA;2BHA
    2MA;2YA;2RA;2LA;2VA;2jf;2SSA;2SA;2HA;1bm g AA;3I;3II;3U;3UU;3E;3AI;3O;3AU;1g el;2jk;1dz g
    1ENUMERATION g;1cq g;1gi ai;1l gi ai;1ic;1l ic;1bm g bz R;110CD:1cq g i
    110D0:0SORA SOMPENG a SAH;3TAH;3BAH;3CAH;3DAH;3GAH;3MAH;3NGAH;3LAH;3NAH;3VAH;3PAH;3YAH;3RAH;3hv
    3KAH;3JAH;3NYAH;3AH;3EEH;3IH;3UH;3OH;3EH;3MAE;110F0:2bs dt;3br;3bj;3t;3at;3ay;3eu;3au;3ar;3cj
    11100:0CHAKMA g ci;2bv;2dx;1a AA;2I;2U;2E;2KAA;2KHAA;2GAA;2GHAA;2NGAA;2CAA;2CHAA;2JAA;2JHAA
    2NYAA;2TTAA;2TTHAA;2DDAA;2DDHAA;2NNAA;2TAA;2THAA;2DAA;2DHAA;2NAA;2PAA;2PHAA;2BAA;2BHAA;2MAA
    2YYAA;2YAA;2RAA;2LAA;2WAA;2SAA;2HAA;1bm g A;3I;3II;3U;3UU;3E;3AI;3O;3AU;3OI;1O ai;1AU ai;1el
    1MAAYYAA;11136:1bs dt;2br;2bj;2t;2at;2ay;2eu;2au;2ar;2cj;1gi ai;1ic;1l ic;1ec ai;1a LHAA
    1bm g AA;3EI;1a VAA;11150:0MAHAJANI a A;2I;2U;2E;2O;2KA;2ke;2GA;2GHA;2CA;2jy;2JA;2JHA;2kb;2TTA
    2il;2DDA;2iw;2NNA;2TA;2ks;2DA;2DHA;2NA;2PA;2PHA;2BA;2BHA;2MA;2RA;2LA;2VA;2SA;2HA;2RRA;1g jk
    1dz g;1gi ai;1dl SHRI;11180:0SHARADA g ci;2bv;2dx;1a A;2AA;2I;2II;2U;2UU;2bz R;3RR;3L;3LL;2E
    2AI;2O;2AU;2KA;2ke;2GA;2GHA;2je;2CA;2jy;2JA;2JHA;2kb;2TTA;2il;2DDA;2iw;2NNA;2TA;2ks;2DA;2DHA
    2NA;2PA;2PHA;2BA;2BHA;2MA;2YA;2RA;2LA;2LLA;2VA;2jf;2SSA;2SA;2HA;1bm g AA;3I;3II;3U;3UU;3bz R
    4RR;4L;4LL;3E;3AI;3O;3AU;1g el;2hw;2JIHVAMULIYA;2UPADHMANIYA;1OM;1ic;1l ic;1dz g;1dc;1SANDHI ai
    1g jk;1bm dy ai;1EXTRA es bm ai;1SUTRA ai;1bm g PRISHTHAMATRA E;1g ba ci;1bs dt;2br;2bj;2t;2at
    2ay;2eu;2au;2ar;2cj;1EKAM;1g SIDDHAM;1HEADSTROKE;1CONTINUATION g;1gi MARK-1;2MARK-2
    111E1:0SINHALA hs bs br;3bj;3t;3at;3ay;3eu;3au;3ar;3cj;2cq io;3em;3ih;3FORTY;3hn;3SIXTY;3eh
    3EIGHTY;3fa;3br ab;4ac;11200:0KHOJKI a A;2AA;2I;2U;2E;2AI;2O;2AU;2KA;2ke;2GA;2GGA;2GHA;2je;2CA
    2jy;2JA;2JJA;11213:2kb;2TTA;2il;2DDA;2iw;2NNA;2TA;2ks;2DA;2DDDA;2DHA;2NA;2PA;2PHA;2BA;2BBA;2BHA
    2MA;2YA;2RA;2LA;2VA;2SA;2HA;2LLA;1bm g AA;3I;3II;3U;3E;3AI;3O;3AU;1g bv;2el;2jk;2SHADDA;1ic
    1l ic;1WORD dc;1gi ai;1l gi ai;1dz g;1g SUKUN;11280:0MULTANI a A;2I;2U;2E;2KA;2ke;2GA
    11288:2GHA;1128A:2CA;2jy;2JA;2JJA;1128F:2kb;2TTA;2il;2DDA;2DDDA;2iw;2NNA;2TA;2ks;2DA;2DHA;2NA
    2PA;2PHA;2BA;1129F:2BHA;2MA;2YA;2RA;2LA;2VA;2SA;2HA;2RRA;2RHA;1gi ai;112B0:0KHUDAWADI a A;2AA
    2I;2II;2U;2UU;2E;2AI;2O;2AU;2KA;2ke;2GA;2GGA;2GHA;2je;2CA;2jy;2JA;2JJA;2JHA;2kb;2TTA;2il;2DDA
    2DDDA;2RRA;2iw;2NNA;2TA;2ks;2DA;2DHA;2NA;2PA;2PHA;2BA;2BBA;2BHA;2MA;2YA;2RA;2LA;2VA;2jf;2SA;2HA
    1g bv;1bm g AA;3I;3II;3U;3UU;3E;3AI;3O;3AU;1g jk;2el;112F0:1bs dt;2br;2bj;2t;2at;2ay;2eu;2au
    2ar;2cj;11300:0GRANTHA g ck bv i;2ci;2bv;2dx;11305:1a A;2AA;2I;2II;2U;2UU;2bz R;3L;1130F:2EE
    2AI;11313:2OO;2AU;2KA;2ke;2GA;2GHA;2je;2CA;2jy;2JA;2JHA;2kb;2TTA;2il;2DDA;2iw;2NNA;2TA;2ks;2DA
    2DHA;2NA;1132A:2PA;2PHA;2BA;2BHA;2MA;2YA;2RA;11332:2LA;2LLA;11335:2VA;2jf;2SSA;2SA;2HA
    1133B:0ck BINDU m;0GRANTHA g jk;2hw;1bm g AA;3I;3II;3U;3UU;3bz R;4RR;11347:3EE;3AI;1134B:3OO
    3AU;1g el;11350:1OM;11357:1AU LENGTH ai;1135D:1g PLUTA;1a VEDIC bv;3l bv;2bz RR;3LL;1bm g bz L
    4LL;11366:0ck GRANTHA bs dt;3br;3bj;3t;3at;3ay;3eu;11370:2a A;3KA;3NA;3VI;3PA;11400:0NEWA a A
    2AA;2I;2II;2U;2UU;2bz R;3RR;3L;3LL;2E;2AI;2O;2AU;2KA;2ke;2GA;2GHA;2je;2NGHA;2CA;2jy;2JA;2JHA
    2kb;2NYHA;2TTA;2il;2DDA;2iw;2NNA;2TA;2ks;2DA;2DHA;2NA;2NHA;2PA;2PHA;2BA;2BHA;2MA;2MHA;2YA;2RA
    2RHA;2LA;2LHA;2WA;2jf;2SSA;2SA;2HA;1bm g AA;3I;3II;3U;3UU;3bz R;4RR;4L;4LL;3E;3AI;3O;3AU;1g el
    2ci;2bv;2dx;2jk;2hw;2n bv;1OM;1SIDDHI;1ic;1l ic;1dq;1GAP FILLER;1dz g;1bs dt;2br;2bj;2t;2at;2ay
    2eu;2au;2ar;2cj;1l dq;1PLACEHOLDER ai;1145D:1INSERTION g;1SANDHI ai;1a VEDIC bv;1g JIHVAMULIYA
    2UPADHMANIYA;11480:0TIRHUTA ANJI;1a A;2AA;2I;2II;2U;2UU;2bz R;3RR;3L;3LL;2E;2AI;2O;2AU;2KA;2ke
    2GA;2GHA;2je;2CA;2jy;2JA;2JHA;2kb;2TTA;2il;2DDA;2iw;2NNA;2TA;2ks;2DA;2DHA;2NA;2PA;2PHA;2BA;2BHA
    2MA;2YA;2RA;2LA;2VA;2jf;2SSA;2SA;2HA;1bm g AA;3I;3II;3U;3UU;3bz R;4RR;4L;4LL;3E;3es E;3AI;3O
    3es O;3AU;1g ci;2bv;2dx;2el;2jk;2hw;1GVANG;1dz g;1OM;114D0:1bs dt;2br;2bj;2t;2at;2ay;2eu;2au
    2ar;2cj;11580:0SIDDHAM a A;2AA;2I;2II;2U;2UU;2bz R;3RR;3L;3LL;2E;2AI;2O;2AU;2KA;2ke;2GA;2GHA
    2je;2CA;2jy;2JA;2JHA;2kb;2TTA;2il;2DDA;2iw;2NNA;2TA;2ks;2DA;2DHA;2NA;2PA;2PHA;2BA;2BHA;2MA;2YA
    2RA;2LA;2VA;2jf;2SSA;2SA;2HA;1bm g AA;3I;3II;3U;3UU;3bz R;4RR;115B8:3E;3AI;3O;3AU;1g ci;2bv;2dx
    2el;2jk;2SIDDHAM;1ic;1l ic;1dc bx;2fc;1REPETITION MARK-1>3;1END OF TEXT ai
    1gi ai b TRIDENT p U-SHAPED ORNAMENTS;6ez CRESCENTS;4RAYS p ez CRESCENTS;7l CRESCENTS
    7dr CRESCENTS;3l di;5b RAYS;3b l CRESCENTS;4dr CRESCENTS;4jr CRESCENTS;4SEPTUPLE CRESCENTS
    4lg p RAYS;6bj ENCLOSURES;6at ENCLOSURES;1a THREE-CIRCLE er I;2TWO-CIRCLE er I;4II;2er U
    1bm g er U;4UU;11600:0MODI a A;2AA;2I;2II;2U;2UU;2bz R;3RR;3L;3LL;2E;2AI;2O;2AU;2KA;2ke;2GA
    2GHA;2je;2CA;2jy;2JA;2JHA;2kb;2TTA;2il;2DDA;2iw;2NNA;2TA;2ks;2DA;2DHA;2NA;2PA;2PHA;2BA;2BHA;2MA
    2YA;2RA;2LA;2VA;2jf;2SSA;2SA;2HA;2LLA;1bm g AA;3I;3II;3U;3UU;3bz R;4RR;4L;4LL;3E;3AI;3O;3AU
    1g bv;2dx;2el;2ARDHACANDRA;1ic;1l ic;1dz g;1g HUVA;11650:1bs dt;2br;2bj;2t;2at;2ay;2eu;2au;2ar
    2cj;11660:0MONGOLIAN BIRGA b bo;1bp BIRGA;1l BIRGA b bo;1dr BIRGA b bo;1BIRGA b l bo
    1bp BIRGA b bo;4l bo;1ba BIRGA;3b l bo;1SWIRL BIRGA;3b bo;4l bo;1bg SWIRL BIRGA b l bo
    11680:0TAKRI a A;2AA;2I;2II;2U;2UU;2E;2AI;2O;2AU;2KA;2ke;2GA;2GHA;2je;2CA;2jy;2JA;2JHA;2kb;2TTA
    2il;2DDA;2iw;2NNA;2TA;2ks;2DA;2DHA;2NA;2PA;2PHA;2BA;2BHA;2MA;2YA;2RA;2LA;2VA;2jf;2SA;2HA;2RRA
    1g bv;2dx;1bm g AA;3I;3II;3U;3UU;3E;3AI;3O;3AU;1g el;2jk;1a hs ke;1dz g;116C0:1bs dt;2br;2bj;2t
    2at;2ay;2eu;2au;2ar;2cj;11700:0AHOM a KA;2ke;2je;2NA;2TA;2er TA;2PA;2PHA;2BA;2MA;2JA;2jy;2ks
    2RA;2LA;2SA;2kb;2HA;2A;2DA;2DHA;2GA;2er GA;2GHA;2BHA;2JHA;2er BA;1171D:1eq g bf LA;4RA
    4LIGATING RA;1bm g A;3AA;3I;3II;3U;3UU;3E;3AW;3O;3AI;3AM;1g KILLER;11730:1bs dt;2br;2bj;2t;2at
    2ay;2eu;2au;2ar;2cj;1cq io;2em;1g d gi;2gi;2RULAI;1w VI;1a CA;2TTA;2il;2DDA;2iw;2NNA;2LLA
    11800:0DOGRA a A;2AA;2I;2II;2U;2UU;2E;2AI;2O;2AU;2KA;2ke;2GA;2GHA;2je;2CA;2jy;2JA;2JHA;2kb;2TTA
    2il;2DDA;2iw;2NNA;2TA;2ks;2DA;2DHA;2NA;2PA;2PHA;2BA;2BHA;2MA;2YA;2RA;2LA;2VA;2jf;2SSA;2SA;2HA
    2RRA;1bm g AA;3I;3II;3U;3UU;3bz R;4RR;3E;3AI;3O;3AU;1g bv;2dx;2el;2jk;1dz g
    118A0:0WARANG CITI c a NGAA;4A;4WI;4YU;4YA;4YO;4II;4UU;4E;4O;4ANG;4GA;4KO;4ENY;4YUJ;4UC;4ENN
    4ODD;4TTE;4NUNG;4DA;4AT;4AM;4BU;4PU;4HIYO;4HOLO;4HORR;4HAR;4SSUU;4SII;4VIYO;2d a NGAA;4A;4WI
    4YU;4YA;4YO;4II;4UU;4E;4O;4ANG;4GA;4KO;4ENY;4YUJ;4UC;4ENN;4ODD;4TTE;4NUNG;4DA;4AT;4AM;4BU;4PU
    4HIYO;4HOLO;4HORR;4HAR;4SSUU;4SII;4VIYO;2bs dt;3br;3bj;3t;3at;3ay;3eu;3au;3ar;3cj;2cq io;3em
    3ih;3FORTY;3hn;3SIXTY;3eh;3EIGHTY;3fa;118FF:2OM;0DIVES AKURU a A;3AA;3I;3II;3U;3UU;3E;11909:3O
    1190C:3KA;3ke;3GA;3GHA;3je;3CA;3jy;3JA;11915:3kb;3TTA;11918:3DDA;3iw;3NNA;3TA;3ks;3DA;3DHA;3NA
    3PA;3PHA;3BA;3BHA;3MA;3YA;3YYA;3RA;3LA;3VA;3jf;3SSA;3SA;3HA;3LLA;3ZA;2bm g AA;4I;4II;4U;4UU;4E
    11937:4AI;4O;1193B:2g bv;3ci;3HALANTA;2el;2PREFIXED NASAL g;2bf YA;2s RA;2bf RA;2g jk;2l ic
    2GAP FILLER;2END OF TEXT ai;11950:2bs dt;3br;3bj;3t;3at;3ay;3eu;3au;3ar;3cj
    119A0:0NANDINAGARI a A;2AA;2I;2II;2U;2UU;2bz R;3RR;119AA:2E;2AI;2O;2AU;2KA;2ke;2GA;2GHA;2je;2CA
    2jy;2JA;2JHA;2kb;2TTA;2il;2DDA;2iw;2NNA;2TA;2ks;2DA;2DHA;2NA;2PA;2PHA;2BA;2BHA;2MA;2YA;2RA;2LA
    2VA;2jf;2SSA;2SA;2HA;2LLA;2RRA;1bm g AA;3I;3II;3U;3UU;3bz R;4RR;119DA:3E;3AI;3O;3AU;1g bv;2dx
    2el;2hw;2SIDDHAM;1HEADSTROKE;1bm g PRISHTHAMATRA E;11A00:0ZANABAZAR an a A;2bm g I;4UE;4U;4E
    4OE;4O;4AI;4AU;4aq I;3LENGTH ai;2a KA;3ke;3GA;3GHA;3je;3CA;3jy;3JA;3kb;3TTA;3il;3DDA;3iw;3NNA
    3TA;3ks;3DA;3DHA;3NA;3PA;3PHA;3BA;3BHA;3MA;3TSA;3TSHA;3DZA;3DZHA;3ZHA;3ZA;3-A;3YA;3RA;3LA;3VA
    3jf;3SSA;3SA;3HA;3KSSA;2n eq ai;2g el;3ci;4b bo;3ln b bo;3bv;3dx;2CLUSTER-INITIAL a RA
    2CLUSTER-FINAL a YA;4RA;4LA;4VA;2s HEAD ai;2CLOSING HEAD ai;2ai TSHEG;3SHAD;3l SHAD;3ej TSHEG
    2s DOUBLE-LINED HEAD ai;2CLOSING DOUBLE-LINED HEAD ai;2SUBJOINER;11A50:0SOYOMBO a A;1bm g I;3UE
    3U;3E;3O;3OE;3AI;3AU;3bz R;4L;2LENGTH ai;1a KA;2ke;2GA;2GHA;2je;2CA;2jy;2JA;2JHA;2kb;2TTA;2il
    2DDA;2iw;2NNA;2TA;2ks;2DA;2DHA;2NA;2PA;2PHA;2BA;2BHA;2MA;2TSA;2TSHA;2DZA;2ZHA;2ZA;2-A;2YA;2RA
    2LA;2VA;2jf;2SSA;2SA;2HA;2KSSA;1g JIHVAMULIYA;2UPADHMANIYA;1CLUSTER-INITIAL a RA;3LA;3jf;3SA
    1n eq g G;4K;4NG;4D;4N;4B;4M;4R;4L;4SH;4S;4-A;1g bv;2dx;1GEMINATION ai;1SUBJOINER;1ai TSHEG
    2SHAD;2l SHAD;2PLUTA;1HEAD ai b MOON p SUN p dr FLAME;8FLAME;6SUN;1TERMINAL MARK-1;2MARK-2
    11AB0:0CANADIAN SYLLABICS NATTILIK HI;3HII;3HO;3HOO;3HA;3HAA;3SHRI;3SHRII;3SHRO;3SHROO;3SHRA
    3SHRAA;2SPE;2SPI;2SPO;2SPA;0PAU CIN HAU a PA;4KA;4LA;4MA;4DA;4ZA;4VA;4je;4HA;4GA;4ke;4SA;4BA
    4CA;4TA;4ks;4NA;4PHA;4RA;4FA;4jy;4A;4E;4I;4O;4U;4UA;4IA;4n P;5K;5T;5M;5N;5L;5W;5NG;5Y
    3RISING ef ej;4ef;3SANDHI fp fb;3RISING ef ej n;5n;3SANDHI fp fb n;4ef ej;4ef;5ej n;5n
    3MID-LEVEL ef;3fp fb ha;3MID-LEVEL ef ej n;5n;3LOW-FALLING ef ej;4ef;3fp fb
    3LOW-FALLING ef ej n;5n;3fp fb n;11C00:0BHAIKSUKI a A;2AA;2I;2II;2U;2UU;2bz R;3RR;3L;11C0A:2E
    2AI;2O;2AU;2KA;2ke;2GA;2GHA;2je;2CA;2jy;2JA;2JHA;2kb;2TTA;2il;2DDA;2iw;2NNA;2TA;2ks;2DA;2DHA
    2NA;2PA;2PHA;2BA;2BHA;2MA;2YA;2RA;2LA;2VA;2jf;2SSA;2SA;2HA;1bm g AA;3I;3II;3U;3UU;3bz R;4RR;4L
    11C38:3E;3AI;3O;3AU;1g ci;2bv;2dx;2el;2hw;1ic;1l ic;1WORD dc;1GAP FILLER-1;2FILLER-2
    11C50:1bs dt;2br;2bj;2t;2at;2ay;2eu;2au;2ar;2cj;1cq br;2bj;2t;2at;2ay;2eu;2au;2ar;2cj;2io;2em
    2ih;2FORTY;2hn;2SIXTY;2eh;2EIGHTY;2fa;1HUNDREDS UNIT ai;11C70:0MARCHEN HEAD ai;1ai SHAD;1a KA
    2ke;2GA;2je;2CA;2jy;2JA;2kb;2TA;2ks;2DA;2NA;2PA;2PHA;2BA;2MA;2TSA;2TSHA;2DZA;2WA;2ZHA;2ZA;2-A
    2YA;2RA;2LA;2jf;2SA;2HA;2A;11C92:1SUBJOINED a KA;3ke;3GA;3je;3CA;3jy;3JA;3kb;3TA;3ks;3DA;3NA
    3PA;3PHA;3BA;3MA;3TSA;3TSHA;3DZA;3WA;3ZHA;3ZA;11CA9:3YA;3RA;3LA;3jf;3SA;3HA;3A;1bm g AA;3I;3U
    3E;3O;1g bv;2ci;11D00:0MASARAM GONDI a A;3AA;3I;3II;3U;3UU;3E;11D08:3AI;3O;11D0B:3AU;3KA;3ke
    3GA;3GHA;3je;3CA;3jy;3JA;3JHA;3kb;3TTA;3il;3DDA;3iw;3NNA;3TA;3ks;3DA;3DHA;3NA;3PA;3PHA;3BA;3BHA
    3MA;3YA;3RA;3LA;3VA;3jf;3SSA;3SA;3HA;3LLA;3KSSA;3JNYA;3TRA;2bm g AA;4I;4II;4U;4UU;4bz R
    11D3A:4E;11D3C:4AI;4O;11D3F:4AU;2g bv;3dx;3jk;3ln;3HALANTA;2el;2REPHA;2RA-KARA;11D50:2bs dt;3br
    3bj;3t;3at;3ay;3eu;3au;3ar;3cj;11D60:0GUNJALA GONDI a A;3AA;3I;3II;3U;3UU;11D67:3EE;3AI
    11D6A:3OO;3AU;3YA;3VA;3BA;3BHA;3MA;3KA;3ke;3TA;3ks;3LA;3GA;3GHA;3DA;3DHA;3NA;3CA;3jy;3TTA;3il
    3LLA;3JA;3JHA;3DDA;3iw;3je;3PA;3PHA;3HA;3RA;3SA;2bm g AA;4I;4II;4U;4UU;11D90:4EE;4AI;11D93:4OO
    4AU;2g bv;3dx;2el;2OM;11DA0:2bs dt;3br;3bj;3t;3at;3ay;3eu;3au;3ar;3cj;11EE0:0MAKASAR a KA;2GA
    2je;2PA;2BA;2MA;2TA;2DA;2NA;2CA;2JA;2kb;2YA;2RA;2LA;2VA;2SA;2A;1ANGKA;1bm g I;3U;3E;3O
    1PASSIMBANG;1END OF gi;11FB0:0LISU a YHA;11FC0:0TAMIL gq br THREE-HUNDRED-AND-TWENTIETH
    3ONE-HUNDRED-AND-SIXTIETH;3EIGHTIETH;3SIXTY-FOURTH;3FORTIETH;3THIRTY-SECOND;2t EIGHTIETHS
    3SIXTY-FOURTHS;2br TWENTIETH;3SIXTEENTH-1;3SIXTEENTH-2;3TENTH;3hd;2t TWENTIETHS;3SIXTEENTHS
    2br FIFTH;3ek;3HALF-1;3HALF-2;2t ig;2DOWNSCALING FACTOR KIIZH;1g NEL;2CEVITU;2AAZHAAKKU
    2UZHAKKU;2MUUVUZHAKKU;2KURUNI;2PATHAKKU;2MUKKURUNI;2KAACU;2PANAM;2PON;2VARAAKAN;2PAARAM;2KUZHI
    2VELI;1WET CULTIVATION g;1DRY CULTIVATION g;1LAND g;1SALT PAN g;1TRADITIONAL CREDIT g;2cq g
    1CURRENT g;1p ODD g;1SPENT g;1TOTAL g;1IN POSSESSION g;1STARTING ku g;1g MUTHALIYA;2VAKAIYARAA
    11FFF:1bc END OF TEXT;0CUNEIFORM g A;3as A;4BAD;4GAN2 in;4HA;4IGI;4LAGAR he;4MUSH;4SAG;2A2;2AB
    3as ASH2;4DUN3 he;4GAL;4GAN2 in;4HA;4IGI he;4IMIN;4LAGAB;4SHESH;4U by U by U;3he;2AB2;3as BALAG
    4GAN2 in;4ME by EN;4SHA3;4TAK4;2AD;2AK;3as ERIN2;4SHITA by GISH;2AL;3as AL;4DIM2;4GISH;4HA
    4KAD3;4KI;4SHE;4USH;2ALAN;2ALEPH;2AMAR;3as SHE;2AN;3cv AN;3t as;3by NAGA OPPOSING AN by NAGA
    5eb;2ANSHE;2APIN;2ARAD;3as KUR;2ARKAB;2ASAL2;2ASH;3ZIDA in;3KABA in
    3cv ASH TUG2 cv TUG2 TUG2 cv TUG2 PAP;5cv ASH;7ds ASH cv ASH cv ASH;2ASH2;2ASHGAB;2BA;2BAD
    2BAG3;2BAHAR2;2BAL;3cv BAL;2BALAG;2fc;2BARA2;2BI;3as A;4GAR;4IGI he;2BU;3cv BU AB;5UN;3ds BU
    2BULUG;3cv BULUG;2BUR;2BUR2;2DA;2DAG;3KISIM5 as A by MASH;5AMAR;5BALAG;5BI;5GA;6by MASH;5GI
    5GIR2;5GUD;5HA;5IR;6by LU;5KAK;5LA;5LU;6by MASH2;5LUM;5NE;5PAP by PAP;5SI;5TAK4;5U2 by GIR2
    5USH;2DAM;2DAR;2DARA3;2DARA4;2DI;2DIB;2DIM;3as SHE;2DIM2;2DIN;3KASKAL U he DISH;2DISH;2DU
    3cv DU;3he;3SHESHIG;2DUB;3as ESH2;2DUB2;2DUG;2DUGUD;2DUH;2DUN;2DUN3;3he;4he;2DUN4;2DUR2;2E
    3as PAP;3cv E NUN cv NUN;2E2;3as A by HA by DA;4GAR;4MI;4SAL;4SHE;4U;2EDIN;2EGIR;2EL;2EN
    3as GAN2;5in;4ME;3ds EN;3OPPOSING EN;3eb;2EREN;2ERIN2;2ESH2;2EZEN;3as A;5by LAL;7as LAL;4AN
    4BAD;4DUN3 he;6he;4HA;5he;4IGI he;4KASKAL;5eb;4KU3;4LA;4LAL as LAL;4LI;4LU;4U2;4UD;2GA;3he;2GA2
    3as A by DA by HA;6HA;6IGI;4AB2 in by TAB;4AN;4ASH;4ASH2 by GAL;4BAD;4fc by RA;4BUR;5by RA;4DA
    4DI;4DIM as SHE;4DUB;4EL;5by LA;4EN;5as GAN2 in;4GAN2 in;4GAR;4GI;4GI4;5by A;4GIR2 by SU
    4HA by LU by ESH2;4HAL;5by LA;4HI by LI;4HUB2;4IGI he;4ISH by HU by ASH;4KAK;4KASKAL;4KID
    5by LAL;4KU3 by AN;4LA;4ME by EN;4MI;4NUN;5cv NUN;4PA;4SAL;4SAR;4SHE;5by TUR;4SHID;4SUM;4TAK4
    4U;4UD;5by DU;3cv GA2;2GABA;3ds GABA;2GAD;3cv GAD GAR cv GAR;2GAL;3GAD cv GAD GAR cv GAR;2GALAM
    2GAM;2GAN;2GAN2;3in;3cv GAN2;3ds GAN2;2GAR;2GAR3;2GASHAN;2GESHTIN;3as KUR;2GI;3as E;4U;3ds GI
    2GI4;3cv GI4;3ds GI4;2GIDIM;2GIR2;3he;2GIR3;3as A by IGI;4GAN2 in;4IGI;4LU by IGI;4PA;2GISAL
    2GISH;3ds GISH;3as BAD;4TAK4;3in;2GU;3ds GU;2GU2;3as KAK;5as IGI he;4NUN;4SAL by TUG2;3he;2GUD
    3as A by KUR;4KUR;3cv GUD LUGAL;2GUL;2GUM;3as SHE;2GUR;2GUR7;2GURUN;2GURUSH;2HA;3in;3he;2HAL
    2HI;3as ASH;4ASH2;4BAD;4DISH;4GAD;4KIN;4NUN;4SHE;4U;2HU;2HUB2;3as AN;4HAL;4KASKAL;4LISH;4UD
    2HUL2;2I;3A;2IB;2IDIM;3cv IDIM BUR;5eb;2IG;2IGI;3DIB;3RI;3cv IGI SHIR cv SHIR UD cv UD;3he;2IL
    3as GAN2 in;2IL2;2IM;3as TAK4;3ds IM;3OPPOSING IM;3eb;2IMIN;2IN;2IR;2ISH;2KA;3as A;4AD;5by KU3
    4ASH2;4BAD;4BALAG;4fc;4BI;4ERIN2;4ESH2;4GA;4GAL;4GAN2 in;4GAR;5by SHA3 by A;4GI;4GIR2
    4GISH by SAR;5ds GISH;4GU;4GUR7;4IGI;4IM;4KAK;4KI;4KID;4LI;4LU;4ME;5by DU;6GI;6TE;4MI;5by NUNUZ
    4NE;4NUN;4PI;4RU;4SA;4SAR;4jf;4SHE;4SHID;4SHU;4SIG;4SUHUR;4TAR;4U;4U2;4UD;4UMUM as PA;4USH;4ZI
    2KA2;3ds KA2;2KAB;2KAD2>4;3cv KAD5;2KAK;3as IGI he;2KAL;3as BAD;3ds KAL;2KAM2;2KAM4;2KASKAL
    3LAGAB as U cv LAGAB as U;3cv KASKAL LAGAB as U cv LAGAB as U;2KESH2;2KI;3as BAD;4U;4UD;2KID
    2KIN;2KISAL;2KISH;2KISIM5;3cv KISIM5;2KU;3cv HI as ASH2 KU cv HI as ASH2;2KU3;2KU4;3ha e;2KU7
    2KUL;3he;2KUN;2KUR;3OPPOSING KUR;2KUSHU2;2KWU318;2LA;2LAGAB;3as A;5by DA by HA;6GAR;6LAL;4AL
    4AN;4ASH ZIDA in;4BAD;4BI;4DAR;4EN;4GA;4GAR;4GUD;5by GUD;4HA;4HAL;4HI as NUN;4IGI he;4IM;5by HA
    6LU;4KI;4KIN;4KU3;4KUL;5by HI by A;4LAGAB;4LISH;4LU;4LUL;4ME;5by EN;4MUSH;4NE;4SHE by SUM
    4SHITA by GISH by ERIN2;7in;4SHU2;5by SHU2;4SUM;4TAG;4TAK4;4TE by A by SU by NA;4U;5by A
    6U by U;4U2 by ASH;4UD;4USH;3eb;2LAGAR;3as SHE;5by SUM;3he;4cv LAGAR he SHE;2LAHSHU;2LAL
    3as LAL;2LAM;3as KUR;5by RU;2LI;2LIL;2LIMMU2;2LISH;2LU;3as BAD;2LU2;3as AL;4BAD;4ESH2;5in
    4GAN2 in;4HI as BAD;4IM;4KAD2;4KAD3;5by ASH;4KI;4LA by ASH;4LAGAB;4ME by EN;4NE;4NU;4SI by ASH
    4SIK2 by BU;4TUG2;3in;3ds LU2;3OPPOSING LU2;3eb;3SHESHIG;2LU3;2LUGAL;3cv LUGAL;3OPPOSING LUGAL
    3SHESHIG;2LUH;2LUL;2LUM;3cv LUM;5GAR cv GAR;2MA;3as TAK4;3he;2MA2;2MAH;2MAR;2MASH;2MASH2;2ME
    2MES;2MI;2MIN;2MU;3cv MU;2MUG;3he;2MUNSUB;2MURGU2;2MUSH;3as A;4KUR;4ZA;3cv MUSH;5as A by NA
    3ds MUSH;2MUSH3;3as A;5by DI;4DI;3he;2NA;2NA2;2NAGA;3ba;3as SHU in;3OPPOSING NAGA;2NAGAR
    2NAM NUTILLU;2NAM;2NAM2;2NE;3as A;4UD;3SHESHIG;2NI;3as E;2NI2;2NIM;3as GAN2 in;4GAR by GAN2 in
    2NINDA2;3as AN;4ASH;5by ASH;4GUD;4ME by GAN2 in;4NE;4NUN;4SHE;5by A AN;6ASH;7by ASH;4U2 by ASH
    4USH;2NISAG;2NU;2NU11;2NUN;3LAGAR as GAR;5MASH;5SAL;6cv NUN LAGAR as SAL;5USH;3in;3cv NUN
    3ds NUN;5LAGAR cv LAGAR;2NUNUZ;3AB2 as ASHGAB;5BI;5DUG;5GUD;5IGI he;5KAD3;5LA;5NE;5SILA3;5U2
    3KISIM5 as BI;6U;2PA;2PAD;2PAN;2PAP;2PESH2;2PI;3as A;4AB;4BI;4BU;4E;4I;4IB;4U;4U2;3ds PI;2PIRIG
    3as KAL;4UD;4ZA;3OPPOSING PIRIG;2RA;2RAB;2RI;2RU;2SA;2SAG NUTILLU;2SAG;3as A;4DU;4DUB;4HA;4KAK
    4KUR;4LUM;4MI;4NUN;4SAL;4SHID;4TAB;4U2;4UB;4UM;4UR;4USH;3cv SAG;3he;2SAL;3LAGAB as ASH2;2SANGA2
    2SAR;2jf;2SHA3;3as A;4BAD;4GISH;4NE;4SHU2;4TUR;4U;5by A;2SHA6;2SHAB6;2SHAR2;2SHE;3HU
    3cv SHE GAD cv GAD GAR cv GAR;5TAB cv TAB GAR cv GAR;2SHEG9;2SHEN;2SHESH;2SHESH2;2SHESHLAM
    2SHID;3as A;4IM;2SHIM;3as A;4BAL;4BULUG;4DIN;4GAR;4IGI;5he;4KUSHU2;4LUL;4MUG;4SAL;2SHINIG;2SHIR
    3in;3cv SHIR BUR cv BUR;2SHITA;2SHU;3cv ba SHU;2SHU2;2SHUBUR;2SI;3he;2SIG;2SIG4;3cv SIG4 SHU2
    2SIK2;2SILA3;2SU;3cv SU;2SUD;2SUD2;2SUHUR;2SUM;2SUMASH;2SUR;2SUR9;2TA;3ch;3as HI;4MI;3he;2TAB
    3cv TAB NI cv NI DISH cv DISH;3eb;2TAG;3as BI;4GUD;4SHE;4SHU;4TUG2;4UD;2TAK4;2TAR;2TE;3he;2TI
    3in;2TIL;2TIR;3as TAK4;3cv TIR;5GAD cv GAD GAR cv GAR;2TU;2TUG2;2TUK;2TUM;2TUR;3cv TUR ZA cv ZA
    2U;3GUD;3U U;3cv U PA cv PA GAR cv GAR;5SUR cv SUR;5U aq cv U aq;2U2;2UB;2UD;3KUSHU2;3as BAD
    4MI;4U by U by U;9he;3he;3SHESHIG;4as BAD;2UDUG;2UM;3as LAGAB;4ME by DA;4SHA3;4U;2UMBIN;2UMUM
    3as KASKAL;4PA;2UN;3he;2UR;3ds UR;3SHESHIG;2UR2;3as A by HA;6NA;4AL;4HA;4NUN;4U2;5by ASH;6BI
    2UR4;2URI;2URI3;2URU;3as A;4ASHGAB;4fc;4DUN;4GA;4GAL;4GAN2 in;4GAR;4GU;4HA;4IGI;4IM;4ISH;4KI
    4LUM;4MIN;4PA;4SHE;4SIG4;4TU;4U by GUD;4UD;4URUDA;2URUDA;3as U;2USH;3as A;4KU;4KUR;4TAK4;2USHX
    2USH2;2USHUMX;2UTUKI;2UZ3;3as KASKAL;2UZU;2ZA;3in;3eb as KUR;2ZAG;2ZAMX;2ZE2;2ZI;3cv ZI;2ZI3
    2ZIB;3KABA in;2ZIG;2ZIZ2;2ZU;2ZU5;3as A;2ZUBUR;2ZUM;2KAP ELAMITE;2AB as NUN;2AB2 as A
    2AMAR as KUG;2DAG KISIM5 as U2 by MASH;2DAG3;2DISH by SHU;2DUB as SHE;2EZEN as GUD;4SHE
    2GA2 as AN by KAK by A;4ASH2;2GE22;2GIG;2HUSH;2KA as ANSHE;4ASH3;4GISH;4GUD;4HI as ASH2;4LUM
    4PA;4SHUL;4TU;4UR2;2LAGAB as GI;2LU2 SHESHIG as BAD;3as ESH2 by LAL;4SHU;2MESH;2MUSH3 as ZA
    2NA4;2NIN;2NIN9;2NINDA2 as BAL;4GI;2NU11 bp fa cn;2PESH2 ch;2PIR2;2SAG as IGI he;2TI2;2UM as ME
    2U U;12400:1NUMERIC g bj ASH;3t ASH;3at ASH;3ay ASH;3eu ASH;3au ASH;3ar ASH;3cj ASH;3t DISH
    3at DISH;3ay DISH;3eu DISH;3au DISH;3ar DISH;3cj DISH;3at U;3ay U;3eu U;3au U;3ar U;3cj U
    3br GESH2;3bj GESH2;3t GESH2;3at GESH2;3ay GESH2;3eu GESH2;3au GESH2;3ar GESH2;3cj GESH2
    3br GESHU;3bj GESHU;3t GESHU;3at GESHU;3ay GESHU;3bj SHAR2;3t SHAR2;5ha e;3at SHAR2;3ay SHAR2
    3eu SHAR2;3au SHAR2;3ar SHAR2;3cj SHAR2;3br SHARU;3bj SHARU;3t SHARU;5ha e;3at SHARU;3ay SHARU
    3SHAR2 as GAL by DISH;7MIN;3br BURU;3bj BURU;3t BURU;5ha e;3at BURU;3ay BURU;3t ha e ESH16
    6ESH21;3at ha e LIMMU;6LIMMU4;6LIMMU A;7B;3eu ha e ASH9;3au ha e IMIN3;6IMIN A;7B;3ar ha e USSU
    6USSU3;3cj ha e ILIMMU;6ILIMMU3;6ILIMMU4;6ILIMMU A;3bj ASH in;3t ASH in;3at ASH in;3ay ASH in
    3eu ASH in;3br BAN2;3bj BAN2;3t BAN2;3at BAN2;5ha e;3ay BAN2;5ha e;3NIGIDAMIN;3NIGIDAESH
    3br ESHE3;3bj ESHE3;3br THIRD DISH;3bj THIRDS DISH;3ay SIXTHS DISH;3br THIRD ha e A
    3bj THIRDS ha e A;3br hd ASH;4ek ASH;3OLD ASSYRIAN br SIXTH;6ek;3br ek GUR;4cd GUR
    3ELAMITE br THIRD;4bj THIRDS;4FORTY;4hn;3at U ha e;3ay U ha e;3eu U ha e;3au U ha e;3ar U ha e
    3cj U ha e;12470:1bc g OLD ASSYRIAN WORD DIVIDER;3q hp;3cm hp;4TRICOLON;4QUADCOLON
    12480:1g AB as NUN in;4SHU2;2AD as ESH2;2BAD as DISH in;2BAHAR2 as AB2;4NI;4ZA;2BU cv BU as NA2
    2DA as TAK4;2DAG as KUR;2DIM as IGI;4U U U;2DIM2 as UD;2DUG as ANSHE;4ASH;5AT o;4DIN;4DUN
    4ERIN2;4GA;4GI;4GIR2 he;4GISH;4HA;4HI;4IGI he;4KASKAL;4KUR;4KUSHU2;5by KASKAL;4LAK-020;4LAM
    5as KUR;4LUH by GISH;4MASH;4MES;4MI;4NI;4PI;4SHE;4SI he;2E2 as KUR;4PAP;2ERIN2 X;2ESH2 ds ESH2
    2EZEN SHESHIG as ASH;5HI;5IGI he;5LA;5LAL;5ME;5MES;5SU;3as SU;2GA2 as BAHAR2;4DIM he
    4DUG as IGI he;6KASKAL;4EREN;4GA;4GAR by DI;6NE;4HA by A;4KUSHU2 by KASKAL;4LAM;5as KUR;4LUH
    4MUSH;4NE;5by E2;6GI;4SHIM;4ZIZ2;2GABA bp fa cn;2GESHTIN as U;2GISH as GISH ds GISH
    2GU2 as IGI he;2GUD by GISH as TAK4;2HA in he;2HI as ASH cv HI as ASH;2KA as BU;4KA;4U U U;4UR
    2LAGAB as ZU cv ZU;2LAK-003;2LAK-021;2LAK-025;2LAK-030;2LAK-050;2LAK-051;2LAK-062
    2LAK-079 cv LAK-079 he;2LAK-080;2LAK-081 cv LAK-081;2LAK-092;2LAK-130;2LAK-142;2LAK-210
    2LAK-219;2LAK-220;2LAK-225;2LAK-228;2LAK-238;2LAK-265;2LAK-266;2LAK-343;2LAK-347;2LAK-348
    2LAK-383;2LAK-384;2LAK-390;2LAK-441;2LAK-449;3as GU;4IGI;4PAP by LU3;6PAP by LU3;4U2 by BA
    2LAK-450;2LAK-457;2LAK-470;2LAK-483;2LAK-490;2LAK-492;2LAK-493;2LAK-495;2LAK-550;2LAK-608
    2LAK-617;3as ASH;4BAD;4DUN3 he he;4KU3;4LA;4TAR;4TE;4U2;4UD;4URUDA;2LAK-636;2LAK-648;3as DUB
    4GA;4IGI;5he;4NI;4PAP by PAP by LU3;4SHESH by KI;4UD;4URUDA;2LAK-724;2LAK-749;2LU2 he as ASH
    3as DISH;4HAL;4PAP;5by PAP by LU3;4TAK4;2MI by ZA7;2MUSH cv MUSH as GA;6KAK;2NINDA2 as DIM he
    4GISH;4GUL;4HI;4KESH2;4LAK-050;4MASH;4PAP by PAP;4U;5by U;4URUDA;2SAG he as HA;3as EN;4SHE AT o
    4TAK4;2SHA6 in;2SHE cv SHE;3by HUB2;4NAM2;4SAR;2SHU2 by DUG as NI;4E2 as AN;2SI as TAK4
    2TAK4 by SAG;2TUM as GAN2 in;4t DISH;2UR2 ba;3as UD;2URU as DARA3;4LAK-668;4LU3;2ZA7
    2ZU cv ZU by SAR;2ZU5 as t DISH in;12F90:0CYPRO-MINOAN g CM001;2CM002;2CM004>9;2CM012B;2CM013
    2CM015;2CM017;2CM019;2CM021;2CM023>8;2CM033>9;2CM044;2CM046;2CM047;2CM049>8;2CM058>7;2CM066>10
    2CM075B;2CM076;2CM078>15;2CM094>12;2CM107>4;2CM112;2CM114;2CM301;2CM302
    13000:0EGYPTIAN HIEROGLYPH A001>5;2A005A;2A006;2A006A;2A006B;2A007>8;2A014A;2A015>3;2A017A
    2A018>15;2A032A;2A033>8;2A040A;2A041;2A042;2A042A;2A043;2A043A;2A044;2A045;2A045A;2A046>25
    2B001>5;2B005A;2B006>4;2C001;2C002;2C002A;2C002B;2C002C;2C003>8;2C010A;2C011>14;2D001>8;2D008A
    2D009>19;2D027A;2D028>4;2D031A;2D032>3;2D034A;2D035>12;2D046A;2D047;2D048;2D048A;2D049;2D050
    2D050A;2D050B;2D050C;2D050D;2D050E;2D050F;2D050G;2D050H;2D050I;2D051;2D052;2D052A;2D053;2D054
    2D054A;2D055>13;2D067A;2D067B;2D067C;2D067D;2D067E;2D067F;2D067G;2D067H;2E001>8;2E008A;2E009
    2E009A;2E010>7;2E016A;2E017;2E017A;2E018>3;2E020A;2E021>8;2E028A;2E029>6;2E034A;2E036>3;2F001
    2F001A;2F002>12;2F013A;2F014>8;2F021A;2F022>10;2F031A;2F032>6;2F037A;2F038;2F038A;2F039>7
    2F045A;2F046;2F046A;2F047;2F047A;2F048>4;2F051A;2F051B;2F051C;2F052;2F053;2G001>6;2G006A;2G007
    2G007A;2G007B;2G008>4;2G011A;2G012>9;2G020A;2G021>6;2G026A;2G027>10;2G036A;2G037;2G037A;2G038>6
    2G043A;2G044;2G045;2G045A;2G046>9;2H001>6;2H006A;2H007;2H008;2I001>5;2I005A;2I006>4;2I009A
    2I010;2I010A;2I011;2I011A;2I012>4;2K001>8;2L001;2L002;2L002A;2L003>4;2L006A;2L007;2L008;2M001
    2M001A;2M001B;2M002;2M003;2M003A;2M004>7;2M010A;2M011;2M012;2M012A;2M012B;2M012C;2M012D;2M012E
    2M012F;2M012G;2M012H;2M013>3;2M015A;2M016;2M016A;2M017;2M017A;2M018>5;2M022A;2M023;2M024;2M024A
    2M025>4;2M028A;2M029>3;2M031A;2M032;2M033;2M033A;2M033B;2M034>7;2M040A;2M041>4;2N001>18;2N018A
    2N018B;2N019>7;2N025A;2N026>8;2N033A;2N034;2N034A;2N035;2N035A;2N036;2N037;2N037A;2N038>5
    2NL001>5;2NL005A;2NL006>12;2NL017A;2NL018>3;2NU001>10;2NU010A;2NU011;2NU011A;2NU012>7;2NU018A
    2NU019>4;2NU022A;2O001;2O001A;2O002>4;2O005A;2O006;2O006A;2O006B;2O006C;2O006D;2O006E;2O006F
    2O007>4;2O010A;2O010B;2O010C;2O011>9;2O019A;2O020;2O020A;2O021>4;2O024A;2O025;2O025A;2O026>4
    2O029A;2O030;2O030A;2O031>3;2O033A;2O034>3;2O036A;2O036B;2O036C;2O036D;2O037>14;2O050A;2O050B
    2O051;2P001;2P001A;2P002;2P003;2P003A;2P004>8;2Q001>7;2R001;2R002;2R002A;2R003;2R003A;2R003B
    2R004>7;2R010A;2R011>6;2R016A;2R017>13;2S001;2S002;2S002A;2S003>4;2S006A;2S007>8;2S014A;2S014B
    2S015>3;2S017A;2S018>9;2S026A;2S026B;2S027>9;2S035A;2S036>11;2T001>3;2T003A;2T004>4;2T007A
    2T008;2T008A;2T009;2T009A;2T010;2T011;2T011A;2T012>5;2T016A;2T017>16;2T032A;2T033;2T033A
    2T034>3;2U001>6;2U006A;2U006B;2U007>17;2U023A;2U024>6;2U029A;2U030>3;2U032A;2U033>10;2V001
    2V001A;2V001B;2V001C;2V001D;2V001E;2V001F;2V001G;2V001H;2V001I;2V002;2V002A;2V003>5;2V007A
    2V007B;2V008>4;2V011A;2V011B;2V011C;2V012;2V012A;2V012B;2V013>8;2V020A;2V020B;2V020C;2V020D
    2V020E;2V020F;2V020G;2V020H;2V020I;2V020J;2V020K;2V020L;2V021>3;2V023A;2V024>5;2V028A;2V029
    2V029A;2V030;2V030A;2V031;2V031A;2V032;2V033;2V033A;2V034>4;2V037A;2V038>3;2V040A;2W001>3
    2W003A;2W004>6;2W009A;2W010;2W010A;2W011>4;2W014A;2W015>3;2W017A;2W018;2W018A;2W019>6;2W024A
    2W025;2X001>4;2X004A;2X004B;2X005;2X006;2X006A;2X007;2X008;2X008A;2Y001;2Y001A;2Y002>7;2Z001
    2Z002;2Z002A;2Z002B;2Z002C;2Z002D;2Z003;2Z003A;2Z003B;2Z004;2Z004A;2Z005;2Z005A;2Z006>10;2Z015A
    2Z015B;2Z015C;2Z015D;2Z015E;2Z015F;2Z015G;2Z015H;2Z015I;2Z016;2Z016A;2Z016B;2Z016C;2Z016D
    2Z016E;2Z016F;2Z016G;2Z016H;2AA001>7;2AA007A;2AA007B;2AA008>25;13430:2q JOINER;2x JOINER
    2INSERT AT TOP START;4fy START;4TOP END;4fy END;2gn ad;2BEGIN SEGMENT;2END SEGMENT
    14400:0ANATOLIAN HIEROGLYPH A001>10;2A010A;2A011>16;2A026A;2A027>13;2A039A;2A040;2A041;2A041A
    2A042>4;2A045A;2A046;2A046A;2A046B;2A047>20;2A066A;2A066B;2A066C;2A067>31;2A097A;2A098;2A098A
    2A099;2A100;2A100A;2A101;2A101A;2A102;2A102A;2A103;2A104;2A104A;2A104B;2A104C;2A105;2A105A
    2A105B;2A106;2A107;2A107A;2A107B;2A107C;2A108>3;2A110A;2A110B;2A111>5;2A115A;2A116>10;2A125A
    2A126>10;2A135A;2A136>67;2A202A;2A202B;2A203>5;2A207A;2A208;2A209;2A209A;2A210>6;2A215A;2A216
    2A216A;2A217>11;2A227A;2A228>40;2A267A;2A268>22;2A289A;2A290>5;2A294A;2A295>5;2A299A;2A300>10
    2A309A;2A310>20;2A329A;2A330;2A331;2A332A;2A332B;2A332C;2A333>4;2A336A;2A336B;2A336C;2A337>23
    2A359A;2A360>5;2A364A;2A365>4;2A368A;2A369>3;2A371A;2A372>10;2A381A;2A382;2A383 RA OR RI;2A383A
    2A384>3;2A386A;2A387>6;2A393 ar;2A394>16;2A410 BEGIN LOGOGRAM ai;2A410A END LOGOGRAM ai
    2A411>40;2A450A;2A451>7;2A457A;2A458>40;2A501>30;16800:0BAMUM a PHASE-A NGKUE MFON;3GBIEE FON
    3PON MFON PIPAEMGBIEE;5PIPAEMBA;3NAA MFON;3SHUENSHUET;3TITA MFON;3NZA MFON;3SHINDA PA NJI
    3PON PA NJI PIPAEMGBIEE;6PIPAEMBA;3MAEMBGBIEE;3TU MAEMBA;3NGANGU;3MAEMVEUX;3MANSUAE;3MVEUAENGAM
    3SEUNYAM;3NTOQPEN;3KEUKEUTNDA;3NKINDI;3SUU;3NGKUENZEUM;3LAPAQ;3LET KUT;3NTAP MFAA;3MAEKEUP
    3PASHAE;3GHEUAERAE;3PAMSHAE;3MON NGGEUAET;3NZUN MEUT;3U YUQ NAE;3GHEUAEGHEUAE;3NTAP NTAA;3SISA
    3MGBASA;3MEUNJOMNDEUQ;3MOOMPUQ;3KAFA;3PA LEERAEWA;3NDA LEERAEWA;3PET;3MAEMKPEN;3NIKA;3PUP
    3TUAEP;3LUAEP;3SONJAM;3TEUTEUWEN;3MAENYI;3KET;3NDAANGGEUAET;3KUOQ;3MOOMEUT;3SHUM;3LOMMAE;3FIRI
    3ROM;3KPOQ;3SOQ;3MAP PIEET;3SHIRAE;3NTAP;3SHOQ NSHUT YUM;3NYIT MONGKEUAEQ;3PAARAE;3NKAARAE
    3UNKNOWN;3NGGEN;3MAESI;3NJAM;3MBANYI;3NYET;3TEUAEN;3SOT;3PAAM;3NSHIEE;3MAEM;3NYI;3KAQ;3NSHA
    3VEE;3LU;3NEN;3NAQ;3MBAQ;2PHASE-B NSHUET;3TU MAEMGBIEE;3SIEE;3SET TU;3LOM NTEUM;3MBA MAELEE
    3KIEEM;3YEURAE;3MBAARAE;3KAM;3PEESHI;3YAFU LEERAEWA;3LAM NSHUT NYAM;3NTIEE SHEUOQ;3NDU NJAA
    3GHEUGHEUAEM;3PIT;3TU NSIEE;3SHET NJAQ;3SHEUAEQTU;3MFON TEUAEQ;3MBIT MBAAKET;3NYI NTEUM;3KEUPUQ
    3GHEUGHEN;3KEUYEUX;3LAANAE;3PARUM;3VEUM;3NGKINDI MVOP;3NGGEU MBU;3WUAET;3SAKEUAE;3TAAM;3MEUQ
    3NGGUOQ;4dd;3MFIYAQ;3SUE;3MBEURI;3MONTIEEN;3NYAEMAE;3PUNGAAM;3MEUT NGGEET;3FEUX;3MBUOQ;3FEE
    3KEUAEM;3MA NJEUAENA;4NJUQA;3LET;3NGGAAM;3NSEN;3MA;3KIQ;3NGOM;2PHASE-C NGKUE MAEMBA;3NZA;3YUM
    3WANGKUOQ;3NGGEN;3NDEUAEREE;3NGKAQ;3GHARAE;3MBEEKEET;3GBAYI;3NYIR MKPARAQ MEUN;3NTU MBIT;3MBEUM
    3PIRIEEN;3NDOMBU;3MBAA CABBAGE-TREE;3KEUSHEUAEP;3GHAP;3KEUKAQ;3YU MUOMAE;3NZEUM;3MBUE;3NSEUAEN
    3MBIT;3YEUQ;3KPARAQ;3KAA;3SEUX;3NDIDA;3TAASHAE;3NJUEQ;3TITA YUE;3SUAET;3NGGUAEN NYAM;3VEUX
    3NANSANAQ;3MA KEUAERI;3NTAA;3NGGUON;3LAP;3MBIRIEEN;3MGBASAQ;3NTEUNGBA;3TEUTEUX;3NGGUM;3FUE
    3NDEUT;3NSA;3NSHAQ;3BUNG;3VEUAEPEN;3MBERAE;3RU;3NJAEM;3LAM;3TITUAEP;3NSUOT NGOM;3NJEEEE;3KET
    3NGGU;3MAESI;3MBUAEM;3LU;3KUT;3NJAM;3NGOM;3WUP;3NGGUEET;3NSOM;3NTEN;3KUOP NKAARAE;3NSUN;3NDAM
    3MA NSIEE;3YAA;3NDAP;3SHUEQ;3SETFON;3MBI;3MAEMBA;3MBANYI;3KEUSEUX;3MBEUX;3KEUM;3MBAA PICKET
    3YUWOQ;3NJEUX;3MIEE;3MUAE;3SHIQ;3KEN LAW;4FATIGUE;3NGAQ;3NAQ;3LIQ;3PIN;3PEN;3TET;2PHASE-D MBUO
    3WAP;3NJI;3MFON;3NJIEE;3LIEE;3NJEUT;3NSHEE;3NGGAAMAE;3NYAM;3WUAEN;3NGKUN;3SHEE;3NGKAP
    3KEUAETMEUN;3TEUT;3SHEUAE;3NJAP;3SUE;3KET;3YAEMMAE;3KUOM;3SAP;3MFEUT;3NDEUX;3MALEERI;3MEUT
    3SEUAEQ;3YEN;3NJEUAEM;3KEUOT MBUAE;3NGKEURI;3TU;3GHAA;3NGKYEE;3FEUFEUAET;3NDEE;3MGBOFUM;3LEUAEP
    3NDON;3MONI;3MGBEUN;3PUUT;3MGBIEE;3MFO;3LUM;3NSIEEP;3MBAA;3KWAET;3NYET;3TEUAEN;3SOT;3YUWOQ
    3KEUM;3RAEM;3TEEEE;3NGKEUAEQ;3MFEUAE;3NSIEET;3KEUP;3PIP;3PEUTAE;3NYUE;3LET;3NGGAAM;3MFIEE
    3NGGWAEN;3YUOM;3PAP;3YUOP;3NDAM;3NTEUM;3SUAE;3KUN;3NGGEUX;3NGKIEE;3TUOT;3MEUN;3KUQ;3NSUM;3TEUN
    3MAENJET;3NGGAP;3LEUM;3NGGUOM;3NSHUT;3NJUEQ;3GHEUAE;3KU;3REN OLD;3TAE;3TOQ;3NYI;3RII;3LEEEE
    3MEEEE;3M;3SUU;3MU;3SHII;3SHEUX;3KYEE;3NU;3SHU;3NTEE;3PEE;3NI;3SHOQ;3PUQ;3MVOP;3LOQ;3REN MUCH
    3TI;3NTUU;3MBAA au;3SAQ;3FAA;2PHASE-E NDAP;3TOON;3MBEUM;3LAP;3VOM;3LOON;3PAA;3SOM;3RAQ;3NSHUOP
    3NDUN;3PUAE;3TAM;3NGKA;3KPEUX;3WUO;3SEE;3NGGEUAET;3PAAM;3TOO;3KUOP;3LOM;3NSHIEE;3NGOP;3MAEM
    3NGKEUX;3NGOQ;3NSHUE;3RIMGBA;3NJEUX;3PEEM;3SAA;3NGGURAE;3MGBA;3GHEUX;3NGKEUAEM;3NJAEMLI;3MAP
    3LOOT;3NGGEEEE;3NDIQ;3TAEN NTEUM;3SET;3PUM;3NDAA SOFTNESS;3NGGUAESHAE NYAM;3YIEE;3GHEUN;3TUAE
    3YEUAE;3PO;3TUMAE;3KEUAE;3SUAEN;3TEUAEQ;3VEUAE;3WEUX;3LAAM;3PU;3TAAQ;3GHAAMAE;3NGEUREUT
    3SHEUAEQ;3MGBEN;3MBEE;3NZAQ;3NKOM;3GBET;3TUM;3KUET;3YAP;3NYI CLEAVER;3YIT;3MFEUQ;3NDIAQ;3PIEEQ
    3YUEQ;3LEUAEM;3FUE;3GBEUX;3NGKUP;3KET;3MAE;3NGKAAMI;3GHET;3FA;3NTUM;3PEUT;3YEUM;3NGGEUAE
    3NYI is;3NZUQ;3POON;3MIEE;3FUET;3NAE;3MUAE;3GHEUAE;3FU I;3MVI;3PUAQ;3NGKUM;3KUT;3PIET;3NTAP
    3YEUAET;3NGGUP;3PA PEOPLE;3FU CALL;3FOM;3NJEE;3A;3TOQ;3O;3I;3LAQ;3PA PLURAL;3TAA;3TAQ
    3NDAA MY HOUSE;3SHIQ;3YEUX;3NGUAE;3YUAEN;3YOQ SWIMMING;4COVER;3YUQ;3YUN;3KEUX;3PEUX;3NJEE EPOCH
    3PUE;3WUE;3FEE;3VEE;3LU;3MI;3REUX;3RAE;3NGUAET;3je;3SHO;3SHOQ;3FU REMEDY;3NA;3PI;3LOQ;3KO;3MEN
    3MA;3MAQ;3TEU;3KI;3MON;3io;3FAQ;3GHOM;2PHASE-F KA;3U;3KU;3EE;3REE;3TAE;3NYI;3LA;3RII;3RIEE
    3MEEEE;3TAA;3NDAA;3NJAEM;3M;3SUU;3SHII;3SI;3SEUX;3KYEE;3KET;3NUAE;3NU;3NJUAE;3YOQ;3SHU;3YA
    3NSHA;3PEUX;3NTEE;3WUE;3PEE;3RU;3NI;3REUX;3KEN;3NGKWAEN;3NGGA;3SHO;3PUAE;3FOM;3WA;3LI;3LOQ;3KO
    3MBEN;3REN;3MA;3MO;3MBAA;3TET;3KPA;3SAMBA;3VUEQ;16A40:0MRO a TA;2NGI;2YO;2MIM;2BA;2DA;2A;2PHI
    2KHAI;2HAO;2DAI;2CHU;2KEAAE;2OL;2MAEM;2NIN;2PA;2OO;2O;2RO;2SHI;2THEA;2EA;2WA;2E;2KO;2LAN;2LA
    2HAI;2RI;2TEK;16A60:1bs dt;2br;2bj;2t;2at;2ay;2eu;2au;2ar;2cj;16A6E:1ic;1l ic;0TANGSA a OZ;2OC
    2OQ;2OX;2AZ;2AC;2AQ;2AX;2VZ;2VC;2VQ;2VX;2EZ;2EC;2EQ;2EX;2IZ;2IC;2IQ;2IX;2UZ;2UC;2UQ;2UX;2AWZ
    2AWC;2AWQ;2AWX;2UIZ;2UIC;2UIQ;2UIX;2n NG;2ej UEX;2es UEZ;3AWX;2UEC;2UEZ;2UEQ;2UEX;2UIUZ;2UIUC
    2UIUQ;2UIUX;2MZ;2MC;2MQ;2MX;2KA;2ke;2GA;2je;2SA;2YA;2WA;2PA;2kb;2PHA;2BA;2MA;2NA;2HA;2LA;2HTA
    2TA;2DA;2RA;2NHA;2jf;2CA;2TSA;2GHA;2HTTA;2ks;2XA;2FA;2DHA;2jy;2ZA;16AC0:1bs dt;2br;2bj;2t;2at
    2ay;2eu;2au;2ar;2cj;16AD0:0BASSA VAH a ENNI;3KA;3SE;3FA;3MBE;3YIE;3GAH;3DHII;3KPAH;3JO;3HWAH
    3WA;3ZO;3GBU;3DO;3CE;3UWU;3TO;3BA;3VU;3YEIN;3PA;3WADDA;3A;3O;3OO;3U;3EE;3E;3I;16AF0:2ck ew ef
    3ho ef;3MID ef;3LOW-MID ef;3HIGH-LOW ef;2hf fb;16B00:0PAHAWH HMONG bm KEEB;3KEEV;3KIB;3KIV
    3KAUB;3KAUV;3KUB;3KUV;3KEB;3KEV;3KAIB;3KAIV;3KOOB;3KOOV;3KAWB;3KAWV;3KUAB;3KUAV;3KOB;3KOV;3KIAB
    3KIAV;3KAB;3KAV;3KWB;3KWV;3KAAB;3KAAV;2eq VAU;3NTSAU;3LAU;3HAU;3NLAU;3RAU;3NKAU;3QHAU;3YAU
    3HLAU;3MAU;3CHAU;3NCHAU;3HNAU;3PLHAU;3NTHAU;3NAU;3AU;3XAU;3CAU;2ai CIM TUB;4SO;4KES;4KHAV;4SUAM
    4HOM;4TAUM;2g VOS THOM;4TSHAB CEEB;3CIM CHEEM;3VOS THIAB;4FEEM;3XYEEM NTXIV;4RHO;4TOV;4FAIB
    3VOS SEEV;3MEEJ SUAB;3VOS NRUA;3IB YAM;3XAUS;3CIM TSOV ROG;16B50:2bs dt;3br;3bj;3t;3at;3ay;3eu
    3au;3ar;3cj;16B5B:2cq TENS;3HUNDREDS;3io THOUSANDS;3MILLIONS;3ab MILLIONS;3io BILLIONS
    3TRILLIONS;16B63:2g VOS LUB;3XYOO;3HLI;3THIRD-STAGE HLI;3ZWJ THAJ;3HNUB;3NQIG;3XIAB;3NTUJ;3AV
    3TXHEEJ CEEV;3MEEJ TSEEB;3TAU;3LOS;3MUS;3CIM HAIS LUS NTOG NTOG;4CUAM TSHOOJ;4TXWV;5CHWV
    4PUB DAWB;4NRES TOS;16B7D:2CLAN g TSHEEJ;4YEEG;4LIS;4LAUJ;4XYOOJ;4KOO;4HAWJ;4MUAS;4THOJ;4TSAB
    4PHAB;4KHAB;4HAM;4VAJ;4FAJ;4YAJ;4TSWB;4KWM;4VWJ;16E40:0MEDEFAIDRIN c a M;3S;3V;3W;3ATIU;3Z;3KP
    3P;3T;3G;3F;3I;3K;3A;3J;3E;3B;3C;3U;3YU;3L;3Q;3HP;3NY;3X;3D;3OE;3N;3R;3O;3AI;3Y;1d a M;3S;3V;3W
    3ATIU;3Z;3KP;3P;3T;3G;3F;3I;3K;3A;3J;3E;3B;3C;3U;3YU;3L;3Q;3HP;3NY;3X;3D;3OE;3N;3R;3O;3AI;3Y
    1bs dt;2br;2bj;2t;2at;2ay;2eu;2au;2ar;2cj;1cq io;2ELEVEN;2TWELVE;2THIRTEEN;2FOURTEEN;2FIFTEEN
    2SIXTEEN;2SEVENTEEN;2EIGHTEEN;2NINETEEN;1bs br er e;2bj er e;2t er e;1dq;1hf fb;1w AIVA;1cy OH
    16F00:0MIAO a PA;2BA;2YI PA;2PLA;2MA;2MHA;2hs MA;2FA;2VA;2VFA;2TA;2DA;2YI TTA;3TA;2TTA;2DDA;2NA
    2NHA;2YI NNA;2hs NA;2NNA;2NNHA;2LA;2LYA;2LHA;2LHYA;2TLHA;2DLHA;2TLHYA;2DLHYA;2KA;2GA;2YI KA;2QA
    2QGA;2je;2NGHA;2hs je;2HA;2XA;2GHA;2GHHA;2TSSA;2DZZA;2kb;2NYHA;2TSHA;2DZHA;2YI TSHA;3DZHA
    2REFORMED TSHA;2jf;2SSA;2ZHA;2ZSHA;2TSA;2DZA;2YI TSA;2SA;2ZA;2ZSA;2ZZA;2ZZSA;2hs ZZA;2ZZYA
    2ZZSYA;2WA;2AH;2HHA;2BRI;2SYI;2DZYI;2TE;2TSE;2RTE;16F4F:1g eq dy fc;1a NASALIZATION
    1g ASPIRATION;2REFORMED VOICING;3ASPIRATION;1bm g A;3AA;3AHH;3AN;3ANG;3O;3OO;3WO;3W;3E;3EN;3ENG
    3OEY;3I;3IA;3IAN;3IANG;3IO;3IE;3II;3IU;3ING;3U;3UA;3UAN;3UANG;3UU;3UEI;3UNG;3Y;3YI;3AE;3AEE
    3ERR;3ROUNDED ERR;3ER;3ROUNDED ER;3AI;3EI;3AU;3OU;3N;3NG;3UOG;3YUI;3OG;3OER;3VW;3IG;3EA;3IONG
    3UI;16F8F:1ef h;2TOP h;2i;2m;1a TONE-2>7;2REFORMED TONE-1;3TONE-2;3TONE-4>3;3TONE-8
    16FE0:0TANGUT km ai;0NUSHU km ai;0OLD CHINESE av ai;2km ai;0KHITAN d hk FILLER
    16FF0:0VIETNAMESE er READING ai CA;4NHAY;18800:0TANGUT COMPONENT-001>768
    0KHITAN d hk CHARACTER-18B00#470;1AFF0:0lf a MINNAN TONE-2>4;1AFF5:3TONE-7;3TONE-8
    3NASALIZED TONE-1>5;1AFFD:4TONE-7;4TONE-8;1B000:2hs E;0HIRAGANA a hs YE;0HENTAIGANA a A-1>3
    2A-WO;2I-1>4;2U-1>5;2E-2>5;2O-1>3;2KA-1>11;2KA-KE;2KI-1>8;2KU-1>7;2KE-1>6;2KO-1>3;2KO-KI
    2SA-1>8;2SI-1>6;2SU-1>8;2SE-1>5;2SO-1>7;2TA-1>4;2TI-1>7;2TU-1>4;2TU-TO;2TE-1>9;2TO-1>6;2TO-RA
    2NA-1>9;2NI-1>7;2NI-TE;2NU-1>3;2NE-1>6;2NE-KO;2NO-1>5;2HA-1>11;2HI-1>7;2HU-1>3;2HE-1>7;2HO-1>8
    2MA-1>7;2MI-1>7;2MU-1>4;2ME-1;2ME-2;2ME-MA;2MO-1>6;2YA-1>5;2YA-YO;2YU-1>4;2YO-1>6;2RA-1>4
    2RI-1>7;2RU-1>6;2RE-1>4;2RO-1>6;2WA-1>5;2WI-1>5;2WE-1>4;2WO-1>7;2N-MU-MO-1;2N-MU-MO-2
    0HIRAGANA a hs WU;0lf a hs YI;3YE;3WU;1B150:0HIRAGANA a d WI;3WE;3WO;1B164:0lf a d WI;3WE;3WO
    3N;1B170:0NUSHU CHARACTER-1B170#396;1BC00:0DUPLOYAN a H;2X;2P;2T;2F;2K;2L;2B;2D;2V;2G;2R;2P N
    2D S;2F N;2K M;2R S;2TH;2SLOAN DH;2DH;2KK;2SLOAN J;2HL;2LH;2RH;2M;2N;2J;2S;2M N;2N M;2J M;2S J
    2M b bx;2N b bx;2J b bx;4cu jj p i;2S b bx;5m;2M S;2N S;2J S;2S S;2M N S;2N M S;2J M S;2S J S
    2J S b bx;3N;4S;2S T;4R;3P;4R;2T S;3R S;2W;2WH;2W R;2S N;3M;2K R S;2G R S;2S K;4R;2A;2SLOAN OW
    2OA;2O;2AOU;2I;2E;2IE;2es I;2UI;2EE;2SLOAN EH;2ROMANIAN I;2SLOAN EE;2ej I;2YE;2U;2EU;2XW;2U N
    2ej U;2ROMANIAN U;2UH;2SLOAN U;2OOH;2OW;2OU;2WA;2WO;2WI;2WEI;2WOW;2NASAL U;3O;3I;3A;2PERNIN AN
    3AM;2SLOAN EN;3AN;3ON;2bz M;1BC70:1AFFIX o x SECANT;2MID x SECANT;2h x SECANT;2ho q SECANT
    2MID q SECANT;2ew q SECANT;2ATTACHED SECANT;3LEFT-TO-RIGHT SECANT;3TANGENT;3gr;3E av;3I av
    3TANGENT av;1BC80:2ew cb;3TIGHT cb;3df;3ej df;3bx;3ao;3ey;3WAVE;3q;1BC90:2ho cb;3TIGHT cb;3df
    3ej df;3bx;3ao;3ey;3WAVE;3q;3f;1BC9C:1g O b fr;1THICK a SELECTOR;1l ai;1bc CHINOOK hf fb
    0SHORTHAND FORMAT a OVERLAP;2CONTINUING OVERLAP;2ce STEP;2UP STEP
    1CF00:0ZNAMENNY ck ai GORAZDO NIZKO S KRYZHEM ON o;3NIZKO S KRYZHEM ON o;3TSATA ON o
    3GORAZDO NIZKO ON o;3NIZKO ON o;3SREDNE ON o;3MALO POVYSHE ON o;3POVYSHE ON o;3VYSOKO ON o
    3MALO POVYSHE S KHOKHLOM ON o;3POVYSHE S KHOKHLOM ON o;3VYSOKO S KHOKHLOM ON o
    3GORAZDO NIZKO S KRYZHEM ON h;3NIZKO S KRYZHEM ON h;3TSATA ON h;3GORAZDO NIZKO ON h;3NIZKO ON h
    3SREDNE ON h;3MALO POVYSHE ON h;3POVYSHE ON h;3VYSOKO ON h;3MALO POVYSHE S KHOKHLOM ON h
    3POVYSHE S KHOKHLOM ON h;3VYSOKO S KHOKHLOM ON h;3TSATA S KRYZHEM;3MALO POVYSHE S KRYZHEM
    3STRANNO MALO POVYSHE;3POVYSHE S KRYZHEM;4STRANNO;3VYSOKO S KRYZHEM;3MALO POVYSHE STRANNO
    3GORAZDO VYSOKO;3ZELO;3ON;3RAVNO;3TIKHAYA;3BORZAYA;3UDARKA;3PODVERTKA;3LOMKA;3KUPNAYA;3KACHKA
    3ZEVOK;3SKOBA;3RAZSEKA;3KRYZH ON o;1CF30:2TONAL RANGE ai MRACHNO;5SVETLO;5TRESVETLO
    2ai ZADERZHKA;3DEMESTVENNY ZADERZHKA;3OTSECHKA;3PODCHASHIE;4b q v;3CHASHKA;4POLNAYA;3OBLACHKO
    3SOROCHYA NOZHKA;3TOCHKA;3DVOETOCHIE;2ATTACHING q OMET;2ai CURVED OMET;3KRYZH
    2bt TONAL RANGE INDICATOR;1PRIZNAK dy LEVEL-2;3LEVEL-3;3DIRECTION FLIP;3KRYZH;3ROG
    1CF50:1NEUME KRYUK;3TIKHY;2PARAKLIT;2DVA V CHELNU;2KLYUCH;2ZANOZHEK;2STOPITSA;3S OCHKOM
    2PEREVODKA;3NEPOSTOYANNAYA;2STOPITSA b SOROCHYA NOZHKA;2CHELYUSTKA;2PALKA;2ZAPYATAYA
    2GOLUBCHIK BORZY;3TIKHY;3MRACHNY;3SVETLY;3TRESVETLY;2VRAKHIYA PROSTAYA;3MRACHNAYA;3SVETLAYA
    3TRESVETLAYA;3KLYUCHEVAYA PROSTAYA;4MRACHNAYA;4SVETLAYA;4TRESVETLAYA;2l ZAPYATAYA
    2aq CHELYUSTKA;2DERBITSA;2KHAMILO;2CHASHKA;2PODCHASHIE;2SKAMEYTSA MRACHNAYA;3SVETLAYA
    3TRESVETLAYA;3TIKHAYA;2DEMESTVENNY KLYUCH;2SKAMEYTSA KLYUCHEVAYA SVETLAYA
    3KLYUCHENEPOSTOYANNAYA;3KLYUCHEVAYA TIKHAYA;3DVOECHELNAYA PROSTAYA;4SVETLAYA;4NEPOSTOYANNAYA
    4KLYUCHEVAYA;2SLOZHITIE;3S ZAPYATOY;3ZAKRYTOE;3S KRYZHEM;2KRYZH;2ROG;2FITA;2KOBYLA;2ZMEYTSA
    2STATYA;3S ZAPYATOY;4KRYZHEM;4ZAPYATOY I KRYZHEM;4KRYZHEM I ZAPYATOY;3ZAKRYTAYA;4S ZAPYATOY
    3S ROGOM;4DVUMYA ZAPYATYMI;4ZAPYATOY I PODCHASHIEM;2POLKULIZMY;2STATYA NEPOSTOYANNAYA
    2STRELA PROSTAYA;3MRACHNOTIKHAYA;3KRYZHEVAYA;3POLUPOVODNAYA;3POVODNAYA;3NEPOSTOYANNAYA
    3KLYUCHEPOVODNAYA;3KLYUCHENEPOSTOYANNAYA;3TIKHAYA PUTNAYA;3DVOECHELNAYA;3DVOECHELNOKRYZHEVAYA
    3DVOECHELNOPOVODNAYA;3DVOECHELNAYA KLYUCHEVAYA;3DVOECHELNOPOVODNAYA KLYUCHEVAYA
    3GROMNAYA b bw ZAPYATAYA;3GROMOPOVODNAYA b bw ZAPYATAYA;3GROMNAYA;3GROMOPOVODNAYA
    4b l ZAPYATAYA;3GROMOKRYZHEVAYA;4POVODNAYA;2MECHIK;3POVODNY;3KLYUCHEVOY;3KLYUCHEPOVODNY
    3KLYUCHENEPOSTOYANNY;2STRELA TRYASOGLASNAYA;3TRYASOPOVODNAYA;3TRYASOSTRELNAYA;2OSOKA;3SVETLAYA
    3TRESVETLAYA;3KRYUKOVAYA SVETLAYA;3KLYUCHEVAYA SVETLAYA;4NEPOSTOYANNAYA;2STRELA KRYUKOVAYA
    4POVODNAYA;4GROMNAYA b bw ZAPYATAYA;4GROMOPOVODNAYA b bw ZAPYATAYA;4GROMNAYA;4GROMOPOVODNAYA
    5b l ZAPYATAYA;4GROMOKRYZHEVAYA;5POVODNAYA;4TRYASKA;2KUFISMA;2OBLAKO;2DUDA;2NEMKA;2PAUK"

end Laminar.Text
