/-!
# Names of characters: East Asia

The names of East Asian scripts and forms, U+2E80 to U+FFFF (Unicode 14).  `CharacterName` says how
the table is read.
-/

namespace Laminar.Text

/-- Names of East Asian scripts and forms, U+2E80 to U+FFFF. -/
def eastAsianNames : String :=
  "2E80:0CJK RADICAL REPEAT;2CLIFF;2SECOND br;3bj;3t;2lb;2BOX;2TABLE;2KNIFE br;3bj;2DIVINATION
    2SEAL;2d br;3bj;2LAME br;3bj;3t;3at;2SNAKE;2THREAD;2SNOUT br;3bj;2ik br;3bj;2lc;2RAP
    2E9B:2CHOKE;2SUN;2MOON;2DEATH;2MOTHER;2CIVILIAN;2WATER br;3bj;2FIRE;2PAW br;3bj
    2SIMPLIFIED cd TREE TRUNK;2COW;2DOG;2JADE;2BOLT OF CLOTH;2EYE;2SPIRIT br;3bj;2BAMBOO;2SILK
    2fj SILK;2NET br;3bj;3t;3at;2MESH;2SHEEP;2RAM;2EWE;2OLD;2BRUSH br;3bj;2MEAT;2MORTAR;2GRASS br
    3bj;3t;2TIGER;2CLOTHES;2gw br;3bj;2fj SEE;2SIMPLIFIED jw;2jw;2fj SPEECH;3jt;2FOOT;2fj CART
    2SIMPLIFIED WALK;2WALK br;3bj;2CITY;2fj GOLD;2ej br;3bj;2fj ej;3GATE;2MOUND br;3bj;2RAIN;2BLUE
    2fj TANNED LEATHER;3LEAF;3WIND;3FLY;2EAT br;3bj;3t;2fj EAT;2HEAD;2fj HORSE;2BONE;2GHOST
    2fj FISH;3BIRD;3SALT;2SIMPLIFIED WHEAT;3YELLOW;2fj FROG;2J-SIMPLIFIED EVEN;2fj EVEN
    2J-SIMPLIFIED TOOTH;2fj TOOTH;2J-SIMPLIFIED DRAGON;2fj DRAGON;2TURTLE;2J-SIMPLIFIED TURTLE
    2fj TURTLE;2F00:0KANGXI RADICAL br;2ey;2bx;2SLASH;2SECOND;2av;2bj;2LID;2MAN;2LEGS;2ENTER;2ar
    2ce BOX;2COVER;2ICE;2TABLE;2eg BOX;2KNIFE;2POWER;2WRAP;2SPOON;2h eg BOX;2HIDING ENCLOSURE;2io
    2DIVINATION;2SEAL;2CLIFF;2PRIVATE;2AGAIN;2ld;2ENCLOSURE;2EARTH;2SCHOLAR;2GO;3SLOWLY;2EVENING
    2BIG;2WOMAN;2CHILD;2ROOF;2INCH;2d;2LAME;2CORPSE;2SPROUT;2MOUNTAIN;2RIVER;2WORK;2ONESELF;2TURBAN
    2DRY;2es THREAD;2ez CLIFF;2ej STRIDE;2bj HANDS;2SHOOT;2BOW;2SNOUT;2BRISTLE;2STEP;2ik;2HALBERD
    2DOOR;2lc;2BRANCH;2RAP;2hk;2DIPPER;2AXE;2an;2li;2SUN;2SAY;2MOON;2TREE;2LACK;2fb;2DEATH;2WEAPON
    2DO li;2COMPARE;2FUR;2CLAN;2STEAM;2WATER;2FIRE;2CLAW;2FATHER;2l X;2cd TREE TRUNK;2SLICE;2FANG
    2COW;2DOG;2PROFOUND;2JADE;2MELON;2TILE;2SWEET;2LIFE;2USE;2FIELD;2BOLT OF CLOTH;2SICKNESS
    2ez TENT;2z;2SKIN;2DISH;2EYE;2SPEAR;2f;2STONE;2SPIRIT;2TRACK;2GRAIN;2CAVE;2STAND;2BAMBOO;2RICE
    2SILK;2JAR;2NET;2SHEEP;2FEATHER;2OLD;2p;2PLOW;2EAR;2BRUSH;2MEAT;2MINISTER;2SELF;2ARRIVE;2MORTAR
    2TONGUE;2OPPOSE;2BOAT;2STOPPING;2COLOR;2GRASS;2TIGER;2INSECT;2BLOOD;2WALK ENCLOSURE;2CLOTHES
    2gw;2SEE;2jw;2SPEECH;2VALLEY;2BEAN;2PIG;2BADGER;2jt;2RED;2RUN;2FOOT;2BODY;2CART;2BITTER
    2MORNING;2WALK;2CITY;2WINE;2DISTINGUISH;2VILLAGE;2GOLD;2ej;2GATE;2MOUND;2SLAVE;2es TAILED BIRD
    2RAIN;2BLUE;2WRONG;2cs;2LEATHER;2TANNED LEATHER;2LEEK;2SOUND;2LEAF;2WIND;2FLY;2EAT;2HEAD
    2FRAGRANT;2HORSE;2BONE;2TALL;2HAIR;2FIGHT;2SACRIFICIAL WINE;2CAULDRON;2GHOST;2FISH;2BIRD;2SALT
    2DEER;2WHEAT;2HEMP;2YELLOW;2MILLET;2y;2EMBROIDERY;2FROG;2TRIPOD;2DRUM;2RAT;2NOSE;2EVEN;2TOOTH
    2DRAGON;2TURTLE;2FLUTE;2FF0:0fv DESCRIPTION gz o TO h;3i TO m;3o TO ad p h;3i TO ad p m
    3hf SURROUND;3SURROUND ku i;5m;5o;5cr o;6h;5bt o;3OVERLAID;3000:1kj;1dq;1hf fb;0DITTO ai
    0JAPANESE INDUSTRIAL STANDARD w;0fv km ai;1CLOSING ai;1cq dt;0o ep ae;0h ep ae;0o l ep ae
    0h l ep ae;0o ga ae;0h ga ae;0o z ga ae;0h z ga ae;0o y kf ae;0h y kf ae;0POSTAL ai;0GETA ai
    0o hg jt ae;0h hg jt ae;0o z kf ae;0h z kf ae;0o z hg jt ae;0h z hg jt ae;0o z an ae;0h z an ae
    0WAVE im;0aq l PRIME dh ai;0l PRIME dh ai;0ho l PRIME dh ai;0POSTAL ai cs;0HANGZHOU NUMERAL br
    2bj;2t;2at;2ay;2eu;2au;2ar;2cj;0fv LEVEL ef ai;1RISING ef ai;1DEPARTING ef ai;1ENTERING ef ai
    0HANGUL bw bx ef ai;1l bx ef ai;0WAVY im;0q KANA REPEAT ai;3b VOICED SOUND ai;3ai cr cd
    3b VOICED SOUND ai cr cd;3ai bt cd;0cl POSTAL ai;0fv TELEGRAPH ey FEED dc w
    0HANGZHOU NUMERAL io;2em;2ih;0q fv km ai;0MASU ai;0PART ALTERNATION ai;0fv VARIATION INDICATOR
    1cd FILL kj;3041:0HIRAGANA a d A;2A;2d I;2I;2d U;2U;2d E;2E;2d O;2O;2KA;2GA;2KI;2GI;2KU;2GU;2KE
    2GE;2KO;2GO;2SA;2ZA;2SI;2ZI;2SU;2ZU;2SE;2ZE;2SO;2ZO;2TA;2DA;2TI;2DI;2d TU;2TU;2DU;2TE;2DE;2TO
    2DO;2NA;2NI;2NU;2NE;2NO;2HA;2BA;2PA;2HI;2BI;2PI;2HU;2BU;2PU;2HE;2BE;2PE;2HO;2BO;2PO;2MA;2MI;2MU
    2ME;2MO;2d YA;2YA;2d YU;2YU;2d YO;2YO;2RA;2RI;2RU;2RE;2RO;2d WA;2WA;2WI;2WE;2WO;2N;2VU;2d KA
    3KE;3099:0ck le VOICED SOUND ai;2SEMI-VOICED SOUND ai;0le VOICED SOUND ai;1SEMI-VOICED SOUND ai
    0HIRAGANA km ai;1VOICED km ai;1fq YORI;0le l HYPHEN;0lf a d A;2A;2d I;2I;2d U;2U;2d E;2E;2d O
    2O;2KA;2GA;2KI;2GI;2KU;2GU;2KE;2GE;2KO;2GO;2SA;2ZA;2SI;2ZI;2SU;2ZU;2SE;2ZE;2SO;2ZO;2TA;2DA;2TI
    2DI;2d TU;2TU;2DU;2TE;2DE;2TO;2DO;2NA;2NI;2NU;2NE;2NO;2HA;2BA;2PA;2HI;2BI;2PI;2HU;2BU;2PU;2HE
    2BE;2PE;2HO;2BO;2PO;2MA;2MI;2MU;2ME;2MO;2d YA;2YA;2d YU;2YU;2d YO;2YO;2RA;2RI;2RU;2RE;2RO;2d WA
    2WA;2WI;2WE;2WO;2N;2VU;2d KA;3KE;2VA;2VI;2VE;2VO;1ad bx;0le PROLONGED SOUND ai;0lf km ai
    1VOICED km ai;1fq KOTO;3105:0BOPOMOFO a B;2P;2M;2F;2D;2T;2N;2L;2G;2K;2H;2J;2Q;2X;2ZH;2CH;2SH;2R
    2Z;2C;2S;2A;2O;2E;2EH;2AI;2EI;2AU;2OU;2AN;2EN;2ANG;2ENG;2ER;2I;2U;2IU;2V;2NG;2GN;2IH;2O b bx i
    2NN;3131:0HANGUL a KIYEOK;2SSANGKIYEOK;2KIYEOK-SIOS;2NIEUN;2NIEUN-CIEUC;2NIEUN-HIEUH;2TIKEUT
    2SSANGTIKEUT;2RIEUL;2RIEUL-KIYEOK;2RIEUL-MIEUM;2RIEUL-PIEUP;2RIEUL-SIOS;2RIEUL-THIEUTH
    2RIEUL-PHIEUPH;2RIEUL-HIEUH;2MIEUM;2PIEUP;2SSANGPIEUP;2PIEUP-SIOS;2SIOS;2SSANGSIOS;2IEUNG
    2CIEUC;2SSANGCIEUC;2CHIEUCH;2KHIEUKH;2THIEUTH;2PHIEUPH;2HIEUH;2A;2AE;2YA;2YAE;2EO;2E;2YEO;2YE
    2O;2WA;2WAE;2OE;2YO;2U;2WEO;2WE;2WI;2YU;2EU;2YI;2I;1FILLER;1a SSANGNIEUN;2NIEUN-TIKEUT
    2NIEUN-SIOS;2NIEUN-PANSIOS;2RIEUL-KIYEOK-SIOS;2RIEUL-TIKEUT;2RIEUL-PIEUP-SIOS;2RIEUL-PANSIOS
    2RIEUL-YEORINHIEUH;2MIEUM-PIEUP;2MIEUM-SIOS;2MIEUM-PANSIOS;2KAPYEOUNMIEUM;2PIEUP-KIYEOK
    2PIEUP-TIKEUT;2PIEUP-SIOS-KIYEOK;2PIEUP-SIOS-TIKEUT;2PIEUP-CIEUC;2PIEUP-THIEUTH;2KAPYEOUNPIEUP
    2KAPYEOUNSSANGPIEUP;2SIOS-KIYEOK;2SIOS-NIEUN;2SIOS-TIKEUT;2SIOS-PIEUP;2SIOS-CIEUC;2PANSIOS
    2SSANGIEUNG;2YESIEUNG;2YESIEUNG-SIOS;2YESIEUNG-PANSIOS;2KAPYEOUNPHIEUPH;2SSANGHIEUH
    2YEORINHIEUH;2YO-YA;2YO-YAE;2YO-I;2YU-YEO;2YU-YE;2YU-I;2ARAEA;2ARAEAE
    3190:0fv ANNOTATION LINKING ai;2gx ai;2br ai;2bj ai;2t ai;2at ai;2TOP ai;2ad ai;2fy ai
    2FIRST ai;2SECOND ai;2THIRD ai;2FOURTH ai;2HEAVEN ai;2EARTH ai;2MAN ai;0BOPOMOFO a BU;2ZI;2JI
    2GU;2EE;2ENN;2OO;2ONN;2IR;2ANN;2INN;2UNN;2IM;2NGG;2AINN;2AUNN;2AM;2OM;2ONG;2INNN;1n a P;3T;3K
    3H;1a GH;2LH;2ZY;1n a G;1a GW;2KW;2OE;2AH;0CJK v T;2WG;2XG;2BXG;2SW;2HZZ;2HZG;2HP;2HZWG;2SZWG
    2HZT;2HZZP;2HPWG;2HZW;2HZZZ;2N;2H;2S;2P;2SP;2D;2HZ;2HG;2SZ;2SWZ;2ST;2SG;2PD;2PZ;2TN;2SZZ;2SWG
    2HXWG;2HZZZG;2PG;2Q;31F0:0lf a d KU;3SI;3SU;3TO;3NU;3HA;3HI;3HU;3HE;3HO;3MU;3RA;3RI;3RU;3RE;3RO
    0PARENTHESIZED HANGUL KIYEOK;2NIEUN;2TIKEUT;2RIEUL;2MIEUM;2PIEUP;2SIOS;2IEUNG;2CIEUC;2CHIEUCH
    2KHIEUKH;2THIEUTH;2PHIEUPH;2HIEUH;2KIYEOK A;2NIEUN A;2TIKEUT A;2RIEUL A;2MIEUM A;2PIEUP A
    2SIOS A;2IEUNG A;2CIEUC A;2CHIEUCH A;2KHIEUKH A;2THIEUTH A;2PHIEUPH A;2HIEUH A;2CIEUC U
    1KOREAN gz OJEON;3O HU;3220:1IDEOGRAPH br;2bj;2t;2at;2ay;2eu;2au;2ar;2cj;2io;2MOON;2FIRE;2WATER
    2WOOD;2METAL;2EARTH;2SUN;2STOCK;2HAVE;2SOCIETY;2NAME;2SPECIAL;2FINANCIAL;2CONGRATULATION;2LABOR
    2REPRESENT;2CALL;2STUDY;2SUPERVISE;2ENTERPRISE;2RESOURCE;2ALLIANCE;2FESTIVAL;2REST;2SELF;2REACH
    0cl IDEOGRAPH ec;2KINDERGARTEN;2SCHOOL;2KOTO;1cq io ON y an;2em ON y an;2ih ON y an
    2FORTY ON y an;2hn ON y an;2SIXTY ON y an;2eh ON y an;2EIGHTY ON y an;0PARTNERSHIP g
    0cl cq em br;3bj;3t;3at;3ay;3eu;3au;3ar;3cj;2ih;3br;3bj;3t;3at;3ay;1HANGUL KIYEOK;2NIEUN
    2TIKEUT;2RIEUL;2MIEUM;2PIEUP;2SIOS;2IEUNG;2CIEUC;2CHIEUCH;2KHIEUKH;2THIEUTH;2PHIEUPH;2HIEUH
    2KIYEOK A;2NIEUN A;2TIKEUT A;2RIEUL A;2MIEUM A;2PIEUP A;2SIOS A;2IEUNG A;2CIEUC A;2CHIEUCH A
    2KHIEUKH A;2THIEUTH A;2PHIEUPH A;2HIEUH A;1KOREAN gz CHAMKO;3JUEUI;1HANGUL IEUNG U
    0KOREAN STANDARD w;0cl IDEOGRAPH br;2bj;2t;2at;2ay;2eu;2au;2ar;2cj;2io;2MOON;2FIRE;2WATER;2WOOD
    2METAL;2EARTH;2SUN;2STOCK;2HAVE;2SOCIETY;2NAME;2SPECIAL;2FINANCIAL;2CONGRATULATION;2LABOR
    2SECRET;2MALE;2FEMALE;2SUITABLE;2EXCELLENT;2PRINT;2ATTENTION;2ITEM;2REST;2COPY;2CORRECT;2ew;2da
    2ho;2o;2h;2MEDICINE;2RELIGION;2STUDY;2SUPERVISE;2ENTERPRISE;2RESOURCE;2ALLIANCE;2NIGHT
    1cq ih eu;3au;3ar;3cj;2FORTY;3br;3bj;3t;3at;3ay;3eu;3au;3ar;3cj;2hn;0fv TELEGRAPH w FOR JANUARY
    4FEBRUARY;4MARCH;4APRIL;4MAY;4JUNE;4JULY;4AUGUST;4SEPTEMBER;4OCTOBER;4NOVEMBER;4DECEMBER;0an HG
    1ERG;1EV;0LIMITED LIABILITY g;0cl lf A;2I;2U;2E;2O;2KA;2KI;2KU;2KE;2KO;2SA;2SI;2SU;2SE;2SO;2TA
    2TI;2TU;2TE;2TO;2NA;2NI;2NU;2NE;2NO;2HA;2HI;2HU;2HE;2HO;2MA;2MI;2MU;2ME;2MO;2YA;2YU;2YO;2RA;2RI
    2RU;2RE;2RO;2WA;2WI;2WE;2WO;0an ERA NAME REIWA;1APAATO;1ARUHUA;1ANPEA;1AARU;1ININGU;1INTI;1UON
    1ESUKUUDO;1EEKAA;1ONSU;1OOMU;1KAIRI;1KARATTO;1KARORII;1GARON;1GANMA;1GIGA;1GINII;1KYURII
    1GIRUDAA;1KIRO;1KIROGURAMU;1KIROMEETORU;1KIROWATTO;1GURAMU;1GURAMUTON;1KURUZEIRO;1KUROONE
    1KEESU;1KORUNA;1KOOPO;1SAIKURU;1SANTIIMU;1SIRINGU;1SENTI;1SENTO;1DAASU;1DESI;1DORU;1TON;1NANO
    1NOTTO;1HAITU;1PAASENTO;1PAATU;1BAARERU;1PIASUTORU;1PIKURU;1PIKO;1BIRU;1HUARADDO;1HUIITO
    1BUSSYERU;1HURAN;1HEKUTAARU;1PESO;1PENIHI;1HERUTU;1PENSU;1PEEZI;1BEETA;1POINTO;1BORUTO;1HON
    1PONDO;1HOORU;1HOON;1MAIKURO;1MAIRU;1MAHHA;1MARUKU;1MANSYON;1MIKURON;1MIRI;1MIRIBAARU;1MEGA
    1MEGATON;1MEETORU;1YAADO;1YAARU;1YUAN;1RITTORU;1RIRA;1RUPII;1RUUBURU;1REMU;1RENTOGEN;1WATTO
    0fv TELEGRAPH w FOR HOUR dt;5br;5bj;5t;5at;5ay;5eu;5au;5ar;5cj;5io;5ELEVEN;5TWELVE;5THIRTEEN
    5FOURTEEN;5FIFTEEN;5SIXTEEN;5SEVENTEEN;5EIGHTEEN;5NINETEEN;5em;5TWENTY-ONE;5TWENTY-TWO
    5TWENTY-THREE;5TWENTY-FOUR;0an HPA;1DA;1AU;1fc;1OV;1PC;1DM;2eb;2CUBED;1IU;1ERA NAME HEISEI
    3SYOUWA;3TAISYOU;3MEIZI;1CORPORATION;1PA AMPS;1NA;1MU A;1MA;1KA;1KB;1MB;1GB;1CAL;1KCAL;1PF;1NF
    1MU F;2G;1MG;1KG;1HZ;1KHZ;1MHZ;1GHZ;1THZ;1MU L;1ML;1DL;1KL;1FM;1NM;1MU M;1MM;1CM;1KM;1MM eb
    1CM eb;1M eb;1KM eb;1MM CUBED;1CM CUBED;1M CUBED;1KM CUBED;1M cv S;4eb;1PA;1KPA;1MPA;1GPA;1RAD
    2cv S;4eb;1PS;1NS;1MU S;1MS;1PV;1NV;1MU V;1MV;1KV;1MV MEGA;1PW;1NW;1MU W;1MW;1KW;1MW MEGA
    1K OHM;1M OHM;1AM;1BQ;1CC;1CD;1C cv KG;1CO;1DB;1GY;1HA;1HP;1IN;1KK;1KM c;1KT;1LM;1LN;1LOG;1LX
    1MB d;1MIL;1MOL;1PH;1PM;1PPM;1PR;1SR;1SV;1WB;1V cv M;1A cv M;0fv TELEGRAPH w FOR DAY br;5bj;5t
    5at;5ay;5eu;5au;5ar;5cj;5io;5ELEVEN;5TWELVE;5THIRTEEN;5FOURTEEN;5FIFTEEN;5SIXTEEN;5SEVENTEEN
    5EIGHTEEN;5NINETEEN;5em;5TWENTY-ONE;5TWENTY-TWO;5TWENTY-THREE;5TWENTY-FOUR;5TWENTY-FIVE
    5TWENTY-SIX;5TWENTY-SEVEN;5TWENTY-EIGHT;5TWENTY-NINE;5ih;5THIRTY-ONE;0an GAL
    4DC0:0HEXAGRAM FOR THE CREATIVE HEAVEN;3RECEPTIVE EARTH;2DIFFICULTY AT THE BEGINNING
    2YOUTHFUL FOLLY;2WAITING;2CONFLICT;2THE ARMY;2HOLDING TOGETHER;2d TAMING;2TREADING;2PEACE
    2STANDSTILL;2FELLOWSHIP;2GREAT POSSESSION;2MODESTY;2ENTHUSIASM;2FOLLOWING;2WORK ON THE DECAYED
    2APPROACH;2CONTEMPLATION;2BITING kc;2GRACE;2SPLITTING APART;2RETURN;2INNOCENCE;2GREAT TAMING
    2ld CORNERS;2GREAT PREPONDERANCE;2THE ABYSMAL WATER;3CLINGING FIRE;2INFLUENCE;2DURATION
    2RETREAT;2GREAT POWER;2PROGRESS;2DARKENING OF THE bn;2THE FAMILY;2OPPOSITION;2OBSTRUCTION
    2DELIVERANCE;2DECREASE;2INCREASE;2BREAKTHROUGH;2COMING TO MEET;2GATHERING TOGETHER
    2PUSHING UPWARD;2OPPRESSION;2THE WELL;2REVOLUTION;2THE CAULDRON;3AROUSING THUNDER
    3KEEPING STILL MOUNTAIN;2DEVELOPMENT;2THE MARRYING MAIDEN;2ABUNDANCE;2THE WANDERER;3GENTLE WIND
    3JOYOUS LAKE;2DISPERSION;2LIMITATION;2INNER TRUTH;2d PREPONDERANCE;2AFTER COMPLETION
    2BEFORE COMPLETION;A000:0YI hm IT;2IX;2I;2IP;2IET;2IEX;2IE;2IEP;2AT;2AX;2A;2AP;2UOX;2UO;2UOP
    2OT;2OX;2O;2OP;2EX;2E;2WU;2BIT;2BIX;2BI;2BIP;2BIET;2BIEX;2BIE;2BIEP;2BAT;2BAX;2BA;2BAP;2BUOX
    2BUO;2BUOP;2BOT;2BOX;2BO;2BOP;2BEX;2BE;2BEP;2BUT;2BUX;2BU;2BUP;2BURX;2BUR;2BYT;2BYX;2BY;2BYP
    2BYRX;2BYR;2PIT;2PIX;2PI;2PIP;2PIEX;2PIE;2PIEP;2PAT;2PAX;2PA;2PAP;2PUOX;2PUO;2PUOP;2POT;2POX
    2PO;2POP;2PUT;2PUX;2PU;2PUP;2PURX;2PUR;2PYT;2PYX;2PY;2PYP;2PYRX;2PYR;2BBIT;2BBIX;2BBI;2BBIP
    2BBIET;2BBIEX;2BBIE;2BBIEP;2BBAT;2BBAX;2BBA;2BBAP;2BBUOX;2BBUO;2BBUOP;2BBOT;2BBOX;2BBO;2BBOP
    2BBEX;2BBE;2BBEP;2BBUT;2BBUX;2BBU;2BBUP;2BBURX;2BBUR;2BBYT;2BBYX;2BBY;2BBYP;2NBIT;2NBIX;2NBI
    2NBIP;2NBIEX;2NBIE;2NBIEP;2NBAT;2NBAX;2NBA;2NBAP;2NBOT;2NBOX;2NBO;2NBOP;2NBUT;2NBUX;2NBU;2NBUP
    2NBURX;2NBUR;2NBYT;2NBYX;2NBY;2NBYP;2NBYRX;2NBYR;2HMIT;2HMIX;2HMI;2HMIP;2HMIEX;2HMIE;2HMIEP
    2HMAT;2HMAX;2HMA;2HMAP;2HMUOX;2HMUO;2HMUOP;2HMOT;2HMOX;2HMO;2HMOP;2HMUT;2HMUX;2HMU;2HMUP;2HMURX
    2HMUR;2HMYX;2HMY;2HMYP;2HMYRX;2HMYR;2MIT;2MIX;2MI;2MIP;2MIEX;2MIE;2MIEP;2MAT;2MAX;2MA;2MAP
    2MUOT;2MUOX;2MUO;2MUOP;2MOT;2MOX;2MO;2MOP;2MEX;2ME;2MUT;2MUX;2MU;2MUP;2MURX;2MUR;2MYT;2MYX;2MY
    2MYP;2FIT;2FIX;2FI;2FIP;2FAT;2FAX;2FA;2FAP;2FOX;2FO;2FOP;2FUT;2FUX;2FU;2FUP;2FURX;2FUR;2FYT
    2FYX;2FY;2FYP;2VIT;2VIX;2VI;2VIP;2VIET;2VIEX;2VIE;2VIEP;2VAT;2VAX;2VA;2VAP;2VOT;2VOX;2VO;2VOP
    2VEX;2VEP;2VUT;2VUX;2VU;2VUP;2VURX;2VUR;2VYT;2VYX;2VY;2VYP;2VYRX;2VYR;2DIT;2DIX;2DI;2DIP;2DIEX
    2DIE;2DIEP;2DAT;2DAX;2DA;2DAP;2DUOX;2DUO;2bx;2DOX;2DO;2DOP;2DEX;2DE;2DEP;2DUT;2DUX;2DU;2DUP
    2DURX;2DUR;2TIT;2TIX;2TI;2TIP;2TIEX;2TIE;2TIEP;2TAT;2TAX;2TA;2TAP;2TUOT;2TUOX;2TUO;2TUOP;2TOT
    2TOX;2TO;2TOP;2TEX;2TE;2TEP;2TUT;2TUX;2TU;2TUP;2TURX;2TUR;2DDIT;2DDIX;2DDI;2DDIP;2DDIEX;2DDIE
    2DDIEP;2DDAT;2DDAX;2DDA;2DDAP;2DDUOX;2DDUO;2DDUOP;2DDOT;2DDOX;2DDO;2DDOP;2DDEX;2DDE;2DDEP;2DDUT
    2DDUX;2DDU;2DDUP;2DDURX;2DDUR;2NDIT;2NDIX;2NDI;2NDIP;2NDIEX;2NDIE;2NDAT;2NDAX;2NDA;2NDAP;2NDOT
    2NDOX;2NDO;2NDOP;2NDEX;2NDE;2NDEP;2NDUT;2NDUX;2NDU;2NDUP;2NDURX;2NDUR;2HNIT;2HNIX;2HNI;2HNIP
    2HNIET;2HNIEX;2HNIE;2HNIEP;2HNAT;2HNAX;2HNA;2HNAP;2HNUOX;2HNUO;2HNOT;2HNOX;2HNOP;2HNEX;2HNE
    2HNEP;2HNUT;2NIT;2NIX;2NI;2NIP;2NIEX;2NIE;2NIEP;2NAX;2NA;2NAP;2NUOX;2NUO;2NUOP;2li;2NOX;2NO
    2NOP;2NEX;2NE;2NEP;2NUT;2NUX;2NU;2NUP;2NURX;2NUR;2HLIT;2HLIX;2HLI;2HLIP;2HLIEX;2HLIE;2HLIEP
    2HLAT;2HLAX;2HLA;2HLAP;2HLUOX;2HLUO;2HLUOP;2HLOX;2HLO;2HLOP;2HLEX;2HLE;2HLEP;2HLUT;2HLUX;2HLU
    2HLUP;2HLURX;2HLUR;2HLYT;2HLYX;2HLY;2HLYP;2HLYRX;2HLYR;2LIT;2LIX;2LI;2LIP;2LIET;2LIEX;2LIE
    2LIEP;2LAT;2LAX;2LA;2LAP;2LUOT;2LUOX;2LUO;2LUOP;2LOT;2LOX;2LO;2LOP;2LEX;2LE;2LEP;2LUT;2LUX;2LU
    2LUP;2LURX;2LUR;2LYT;2LYX;2LY;2LYP;2LYRX;2LYR;2GIT;2GIX;2GI;2GIP;2GIET;2GIEX;2GIE;2GIEP;2GAT
    2GAX;2GA;2GAP;2GUOT;2GUOX;2GUO;2GUOP;2GOT;2GOX;2GO;2GOP;2GET;2GEX;2GE;2GEP;2GUT;2GUX;2GU;2GUP
    2GURX;2GUR;2KIT;2KIX;2KI;2KIP;2KIEX;2KIE;2KIEP;2KAT;2KAX;2KA;2KAP;2KUOX;2KUO;2KUOP;2KOT;2KOX
    2KO;2KOP;2KET;2KEX;2KE;2KEP;2KUT;2KUX;2KU;2KUP;2KURX;2KUR;2GGIT;2GGIX;2GGI;2GGIEX;2GGIE;2GGIEP
    2GGAT;2GGAX;2GGA;2GGAP;2GGUOT;2GGUOX;2GGUO;2GGUOP;2GGOT;2GGOX;2GGO;2GGOP;2GGET;2GGEX;2GGE;2GGEP
    2GGUT;2GGUX;2GGU;2GGUP;2GGURX;2GGUR;2MGIEX;2MGIE;2MGAT;2MGAX;2MGA;2MGAP;2MGUOX;2MGUO;2MGUOP
    2MGOT;2MGOX;2MGO;2MGOP;2MGEX;2MGE;2MGEP;2MGUT;2MGUX;2MGU;2MGUP;2MGURX;2MGUR;2HXIT;2HXIX;2HXI
    2HXIP;2HXIET;2HXIEX;2HXIE;2HXIEP;2HXAT;2HXAX;2HXA;2HXAP;2HXUOT;2HXUOX;2HXUO;2HXUOP;2HXOT;2HXOX
    2HXO;2HXOP;2HXEX;2HXE;2HXEP;2NGIEX;2NGIE;2NGIEP;2NGAT;2NGAX;2je;2NGAP;2NGUOT;2NGUOX;2NGUO;2NGOT
    2NGOX;2NGO;2NGOP;2NGEX;2NGE;2NGEP;2HIT;2HIEX;2HIE;2HAT;2HAX;2HA;2HAP;2HUOT;2HUOX;2HUO;2HUOP
    2HOT;2HOX;2HO;2HOP;2HEX;2HE;2HEP;2WAT;2WAX;2WA;2WAP;2WUOX;2WUO;2WUOP;2WOX;2WO;2WOP;2WEX;2WE
    2WEP;2ZIT;2ZIX;2ZI;2ZIP;2ZIEX;2ZIE;2ZIEP;2ZAT;2ZAX;2ZA;2ZAP;2ZUOX;2ZUO;2ZUOP;2ZOT;2ZOX;2ZO;2ZOP
    2ZEX;2ZE;2ZEP;2ZUT;2ZUX;2ZU;2ZUP;2ZURX;2ZUR;2ZYT;2ZYX;2ZY;2ZYP;2ZYRX;2ZYR;2CIT;2CIX;2CI;2CIP
    2CIET;2CIEX;2CIE;2CIEP;2CAT;2CAX;2CA;2CAP;2CUOX;2CUO;2CUOP;2COT;2COX;2CO;2COP;2CEX;2CE;2CEP
    2CUT;2CUX;2CU;2CUP;2CURX;2CUR;2CYT;2CYX;2CY;2CYP;2CYRX;2CYR;2ZZIT;2ZZIX;2ZZI;2ZZIP;2ZZIET
    2ZZIEX;2ZZIE;2ZZIEP;2ZZAT;2ZZAX;2ZZA;2ZZAP;2ZZOX;2ZZO;2ZZOP;2ZZEX;2ZZE;2ZZEP;2ZZUX;2ZZU;2ZZUP
    2ZZURX;2ZZUR;2ZZYT;2ZZYX;2ZZY;2ZZYP;2ZZYRX;2ZZYR;2NZIT;2NZIX;2NZI;2NZIP;2NZIEX;2NZIE;2NZIEP
    2NZAT;2NZAX;2NZA;2NZAP;2NZUOX;2NZUO;2NZOX;2NZOP;2NZEX;2NZE;2NZUX;2NZU;2NZUP;2NZURX;2NZUR;2NZYT
    2NZYX;2NZY;2NZYP;2NZYRX;2NZYR;2SIT;2eu;2SI;2SIP;2SIEX;2SIE;2SIEP;2SAT;2SAX;2SA;2SAP;2SUOX;2SUO
    2SUOP;2SOT;2SOX;2SO;2SOP;2SEX;2SE;2SEP;2SUT;2SUX;2SU;2SUP;2SURX;2SUR;2SYT;2SYX;2SY;2SYP;2SYRX
    2SYR;2SSIT;2SSIX;2SSI;2SSIP;2SSIEX;2SSIE;2SSIEP;2SSAT;2SSAX;2SSA;2SSAP;2SSOT;2SSOX;2SSO;2SSOP
    2SSEX;2SSE;2SSEP;2SSUT;2SSUX;2SSU;2SSUP;2SSYT;2SSYX;2SSY;2SSYP;2SSYRX;2SSYR;2ZHAT;2ZHAX;2ZHA
    2ZHAP;2ZHUOX;2ZHUO;2ZHUOP;2ZHOT;2ZHOX;2ZHO;2ZHOP;2ZHET;2ZHEX;2ZHE;2ZHEP;2ZHUT;2ZHUX;2ZHU;2ZHUP
    2ZHURX;2ZHUR;2ZHYT;2ZHYX;2ZHY;2ZHYP;2ZHYRX;2ZHYR;2CHAT;2CHAX;2jy;2CHAP;2CHUOT;2CHUOX;2CHUO
    2CHUOP;2CHOT;2CHOX;2CHO;2CHOP;2CHET;2CHEX;2CHE;2CHEP;2CHUX;2CHU;2CHUP;2CHURX;2CHUR;2CHYT;2CHYX
    2CHY;2CHYP;2CHYRX;2CHYR;2RRAX;2RRA;2RRUOX;2RRUO;2RROT;2RROX;2RRO;2RROP;2RRET;2RREX;2RRE;2RREP
    2RRUT;2RRUX;2RRU;2RRUP;2RRURX;2RRUR;2RRYT;2RRYX;2RRY;2RRYP;2RRYRX;2RRYR;2NRAT;2NRAX;2NRA;2NRAP
    2NROX;2NRO;2NROP;2NRET;2NREX;2NRE;2NREP;2NRUT;2NRUX;2NRU;2NRUP;2NRURX;2NRUR;2NRYT;2NRYX;2NRY
    2NRYP;2NRYRX;2NRYR;2SHAT;2SHAX;2jf;2SHAP;2SHUOX;2SHUO;2SHUOP;2SHOT;2SHOX;2SHO;2SHOP;2SHET;2SHEX
    2SHE;2SHEP;2SHUT;2SHUX;2SHU;2SHUP;2SHURX;2SHUR;2SHYT;2SHYX;2SHY;2SHYP;2SHYRX;2SHYR;2RAT;2RAX
    2RA;2RAP;2RUOX;2RUO;2RUOP;2ROT;2ROX;2RO;2ROP;2REX;2RE;2REP;2RUT;2RUX;2RU;2RUP;2RURX;2RUR;2RYT
    2RYX;2RY;2RYP;2RYRX;2RYR;2JIT;2JIX;2JI;2JIP;2JIET;2JIEX;2JIE;2JIEP;2JUOT;2JUOX;2JUO;2JUOP;2JOT
    2JOX;2JO;2JOP;2JUT;2JUX;2JU;2JUP;2JURX;2JUR;2JYT;2JYX;2JY;2JYP;2JYRX;2JYR;2QIT;2QIX;2QI;2QIP
    2QIET;2QIEX;2QIE;2QIEP;2QUOT;2QUOX;2QUO;2QUOP;2QOT;2QOX;2QO;2QOP;2QUT;2QUX;2QU;2QUP;2QURX;2QUR
    2QYT;2QYX;2QY;2QYP;2QYRX;2QYR;2JJIT;2JJIX;2JJI;2JJIP;2JJIET;2JJIEX;2JJIE;2JJIEP;2JJUOX;2JJUO
    2JJUOP;2JJOT;2JJOX;2JJO;2JJOP;2JJUT;2JJUX;2JJU;2JJUP;2JJURX;2JJUR;2JJYT;2JJYX;2JJY;2JJYP;2NJIT
    2NJIX;2NJI;2NJIP;2NJIET;2NJIEX;2NJIE;2NJIEP;2NJUOX;2NJUO;2NJOT;2NJOX;2NJO;2NJOP;2NJUX;2NJU
    2NJUP;2NJURX;2NJUR;2NJYT;2NJYX;2NJY;2NJYP;2NJYRX;2NJYR;2NYIT;2NYIX;2NYI;2NYIP;2NYIET;2NYIEX
    2NYIE;2NYIEP;2NYUOX;2NYUO;2NYUOP;2NYOT;2NYOX;2NYO;2NYOP;2NYUT;2NYUX;2NYU;2NYUP;2XIT;2XIX;2XI
    2XIP;2XIET;2XIEX;2XIE;2XIEP;2XUOX;2XUO;2XOT;2XOX;2XO;2XOP;2XYT;2XYX;2XY;2XYP;2XYRX;2XYR;2YIT
    2YIX;2YI;2YIP;2YIET;2YIEX;2YIE;2YIEP;2YUOT;2YUOX;2YUO;2YUOP;2YOT;2YOX;2YO;2YOP;2YUT;2YUX;2YU
    2YUP;2YURX;2YUR;2YYT;2YYX;2YY;2YYP;2YYRX;2YYR;A490:1RADICAL QOT;2LI;2KIT;2NYIP;2CYP;2SSI;2GGOP
    2GEP;2MI;2HXIT;2LYR;2BBUT;2MOP;2YO;2PUT;2HXUO;2TAT;2GA;2ZUP;2CYT;2DDUR;2BUR;2GGUO;2NYOP;2TU;2OP
    2JJUT;2ZOT;2PYT;2HMO;2YIT;2VUR;2SHY;2VEP;2ZA;2JO;2NZUP;2JJY;2GOT;2JJIE;2WO;2DU;2SHUR;2LIE;2CY
    2CUOP;2CIP;2HXOP;2SHAT;2ZUR;2SHOP;2CHE;2ZZIET;2NBIE;2KE;A4D0:0LISU a BA;2PA;2PHA;2DA;2TA;2ks
    2GA;2KA;2ke;2JA;2CA;2jy;2DZA;2TSA;2TSHA;2MA;2NA;2LA;2SA;2ZHA;2ZA;2je;2HA;2XA;2HHA;2FA;2WA;2jf
    2YA;2GHA;2A;2AE;2E;2EU;2I;2O;2U;2UE;2UH;2OE;2ef MYA TI;3NA PO;3MYA CYA;4BO;4NA;4JEU;1bc dq
    2hf fb;0VAI hm EE;2EEN;2HEE;2WEE;2WEEN;2PEE;2BHEE;2BEE;2MBEE;2KPEE;2MGBEE;2GBEE;2FEE;2VEE;2TEE
    2THEE;2DHEE;2DHHEE;2LEE;2REE;2DEE;2NDEE;2SEE;2SHEE;2ZEE;2ZHEE;2CEE;2JEE;2NJEE;2YEE;2KEE;2NGGEE
    2GEE;2MEE;2NEE;2NYEE;2I;2IN;2HI;2HIN;2WI;2WIN;2PI;2BHI;2BI;2MBI;2KPI;2MGBI;2GBI;2FI;2VI;2TI
    2THI;2DHI;2DHHI;2LI;2RI;2DI;2NDI;2SI;2SHI;2ZI;2ZHI;2CI;2JI;2NJI;2YI;2KI;2NGGI;2GI;2MI;2NI;2NYI
    2A;2AN;2NGAN;2HA;2HAN;2WA;2WAN;2PA;2BHA;2BA;2MBA;2KPA;2KPAN;2MGBA;2GBA;2FA;2VA;2TA;2ks;2DHA
    2DHHA;2LA;2RA;2DA;2NDA;2SA;2jf;2ZA;2ZHA;2CA;2JA;2NJA;2YA;2KA;2KAN;2NGGA;2GA;2MA;2NA;2kb;2OO
    2OON;2HOO;2WOO;2WOON;2POO;2BHOO;2BOO;2MBOO;2KPOO;2MGBOO;2GBOO;2FOO;2VOO;2TOO;2THOO;2DHOO;2DHHOO
    2LOO;2ROO;2DOO;2NDOO;2SOO;2SHOO;2ZOO;2ZHOO;2COO;2JOO;2NJOO;2YOO;2KOO;2NGGOO;2GOO;2MOO;2NOO
    2NYOO;2U;2UN;2HU;2HUN;2WU;2WUN;2PU;2BHU;2BU;2MBU;2KPU;2MGBU;2GBU;2FU;2VU;2TU;2THU;2DHU;2DHHU
    2LU;2RU;2DU;2NDU;2SU;2SHU;2ZU;2ZHU;2CU;2JU;2NJU;2YU;2KU;2NGGU;2GU;2MU;2NU;2NYU;2O;2ON;2NGON;2HO
    2HON;2WO;2WON;2PO;2BHO;2BO;2MBO;2KPO;2MGBO;2GBO;2GBON;2FO;2VO;2TO;2THO;2DHO;2DHHO;2LO;2RO;2DO
    2NDO;2SO;2SHO;2ZO;2ZHO;2CO;2JO;2NJO;2YO;2KO;2NGGO;2GO;2MO;2NO;2NYO;2E;2EN;2NGEN;2HE;2HEN;2WE
    2WEN;2PE;2BHE;2BE;2MBE;2KPE;2KPEN;2MGBE;2GBE;2GBEN;2FE;2VE;2TE;2THE;2DHE;2DHHE;2LE;2RE;2DE;2NDE
    2SE;2SHE;2ZE;2ZHE;2CE;2JE;2NJE;2YE;2KE;2NGGE;2NGGEN;2GE;2GEN;2ME;2NE;2NYE;2NG;2LENGTHENER;1dq
    1hf fb;1ec ai;1hm NDOLE FA;3KA;3SOO;1w FEENG;2KEENG;2TING;2NII;2BANG;2FAA;2TAA;2DANG;2DOONG
    2KUNG;2TONG;2DO-O;2JONG;1bs dt;2br;2bj;2t;2at;2ay;2eu;2au;2ar;2cj;1hm NDOLE MA;3DO
    A640:0iv c a ZEMLYA;1d a ZEMLYA;1c a DZELO;1d a DZELO;1c a aq DZE;1d a aq DZE;1c a kp;1d a kp
    1c a DJERV;1d a DJERV;1c a MONOGRAPH UK;1d a MONOGRAPH UK;1c a BROAD gm;1d a BROAD gm
    1c a hc YER;1d a hc YER;1c a YERU b BACK YER;1d a YERU b BACK YER;1c a ht YAT;1d a ht YAT
    1c a aq YU;1d a aq YU;1c a ht A;1d a ht A;1c a fn cz YUS;1d a fn cz YUS;1c a BLENDED YUS
    1d a BLENDED YUS;1c a ht fn cz YUS;1d a ht fn cz YUS;1c a YN;1d a YN;1c a aq TSE;1d a aq TSE
    1c a SOFT DE;1d a SOFT DE;1c a SOFT EL;1d a SOFT EL;1c a SOFT EM;1d a SOFT EM;1c a MONOCULAR O
    1d a MONOCULAR O;1c a BINOCULAR O;1d a BINOCULAR O;1c a l MONOCULAR O;1d a l MONOCULAR O
    1a MULTIOCULAR O;0ck iv VZMET;2io MILLIONS g;2ab MILLIONS g;2ac MILLIONS g;0SLAVONIC ch
    0ck iv a UKRAINIAN IE;3I;3YI;3U;3HARD g;3YERU;3SOFT g;3gm;2KAVYKA;2PAYEROK;0iv KAVYKA;1PAYEROK
    1c a DWE;1d a DWE;1c a DZWE;1d a DZWE;1c a ZHWE;1d a ZHWE;1c a CCHE;1d a CCHE;1c a DZZE
    1d a DZZE;1c a TE b ad av;1d a TE b ad av;1c a TWE;1d a TWE;1c a TSWE;1d a TSWE;1c a TSSE
    1d a TSSE;1c a TCHE;1d a TCHE;1c a HWE;1d a HWE;1c a SHWE;1d a SHWE;1c a l O;1d a l O;1c a la O
    1d a la O;0dy a iv HARD g;3SOFT g;0ck iv a EF;3ht E;0BAMUM a A;2KA;2U;2KU;2EE;2REE;2TAE;2O;2NYI
    2I;2LA;2PA;2RII;2RIEE;2LEEEE;2MEEEE;2TAA;2NDAA;2NJAEM;2M;2SUU;2MU;2SHII;2SI;2SHEUX;2SEUX;2KYEE
    2KET;2NUAE;2NU;2NJUAE;2YOQ;2SHU;2YUQ;2YA;2NSHA;2KEUX;2PEUX;2NJEE;2NTEE;2PUE;2WUE;2PEE;2FEE;2RU
    2LU;2MI;2NI;2REUX;2RAE;2KEN;2NGKWAEN;2NGGA;2je;2SHO;2PUAE;2FU;2FOM;2WA;2NA;2LI;2PI;2LOQ;2KO
    2MBEN;2REN;2MEN;2MA;2TI;2KI;2MO;2MBAA;2TET;2KPA;2io;2NTUU;2SAMBA;2FAAMAE;2KOVUU;2KOGHOM
    1ck ai KOQNDON;3TUKWENTIS;1NJAEMLI;1hf fb;1hp;1dq;1iz;1ec ai;A700:0dy a CHINESE ef YIN PING
    4YANG PING;4YIN SHANG;4YANG SHANG;4YIN QU;4YANG QU;4YIN RU;4YANG RU;2EXTRA-HIGH ez ef fc
    2ew ez ef fc;2MID ez ef fc;2ho ez ef fc;2EXTRA-LOW ez ef fc;2EXTRA-HIGH ez kn ef fc
    2ew ez kn ef fc;2MID ez kn ef fc;2ho ez kn ef fc;2EXTRA-LOW ez kn ef fc;2EXTRA-HIGH kn ef fc
    2ew kn ef fc;2MID kn ef fc;2ho kn ef fc;2EXTRA-LOW kn ef fc;2bx q fc;3SLASH;3x fc;2bt h ga ep
    2hh UP f;3ce f;3cy ai;3ba cy ai;2ho ba cy ai;2STRESS p ew ef;4ho ef;0eo c a EGYPTOLOGICAL db
    1d a EGYPTOLOGICAL db;1c a EGYPTOLOGICAL AIN;1d a EGYPTOLOGICAL AIN;1c a HENG;1d a HENG;1c a TZ
    1d a TZ;1c a TRESILLO;1d a TRESILLO;1c a CUATRILLO;1d a CUATRILLO;1c a CUATRILLO b dq
    1d a CUATRILLO b dq;1a d c F;4S;1c a AA;1d a AA;1c a AO;1d a AO;1c a AU;1d a AU;1c a AV;1d a AV
    1c a AV b x fc;1d a AV b x fc;1c a AY;1d a AY;1c a aq C b bx;1d a aq C b bx;1c a K b v
    1d a K b v;1c a K b cm v;1d a K b cm v;1c a K b v p cm v;1d a K b v p cm v;1c a BROKEN L
    1d a BROKEN L;1c a L b ew v;1d a L b ew v;1c a O b ej v gn;1d a O b ej v gn;1c a O b LOOP
    1d a O b LOOP;1c a OO;1d a OO;1c a P b v kc cg;1d a P b v kc cg;1c a P b FLOURISH
    1d a P b FLOURISH;1c a P b SQUIRREL gr;1d a P b SQUIRREL gr;1c a Q b v kc cg;1d a Q b v kc cg
    1c a Q b cm v;1d a Q b cm v;1c a R ROTUNDA;1d a R ROTUNDA;1c a RUM ROTUNDA;1d a RUM ROTUNDA
    1c a V b cm v;1d a V b cm v;1c a VY;1d a VY;1c a VISIGOTHIC Z;1d a VISIGOTHIC Z;1c a THORN b v
    1d a THORN b v;1c a THORN b v kc cg;1d a THORN b v kc cg;1c a VEND;1d a VEND;1c a ET;1d a ET
    1c a IS;1d a IS;1c a CON;1d a CON;0dy a US;0eo d a DUM;3LUM;3MUM;3NUM;3RUM;1a d c RUM;1d a TUM
    3UM;1c a ie D;1d a ie D;1c a ie F;1d a ie F;1c a ie G;3bg ie G;1d a bg ie G;1c a bg L;1d a bg L
    1c a ie R;1d a ie R;1c a ie S;1d a ie S;1c a ie T;1d a ie T;0dy a ho af ev;2hp;2es fm g
    0eo c a SALTILLO;1d a SALTILLO;1c a bg H;1d a L b ca av p BELT;1a SINOLOGICAL bx;1c a N b cg
    1d a N b cg;1c a C b fc;1d a C b fc;5fi av;3H b fi av;1c a B b FLOURISH;1d a B b FLOURISH
    1c a F b v;1d a F b v;1c a VOLAPUK AE;1d a VOLAPUK AE;1c a VOLAPUK OE;1d a VOLAPUK OE
    1c a VOLAPUK UE;1d a VOLAPUK UE;1c a G b jq v;1d a G b jq v;1c a K b jq v;1d a K b jq v
    1c a N b jq v;1d a N b jq v;1c a R b jq v;1d a R b jq v;1c a S b jq v;1d a S b jq v;1c a H b av
    3aq eg E;3hk G;3L b BELT;3d c I;1a d c Q;1c a bg K;4T;3J b iq;3CHI;3BETA;1d a BETA;1c a gm
    1d a gm;1c a U b v;1d a U b v;1c a fp A;1d a fp A;1c a fp I;1d a fp I;1c a fp U;1d a fp U
    1c a OLD POLISH O;1d a OLD POLISH O;1c a ANGLICANA W;1d a ANGLICANA W;1c a C b fi av;3S b av
    3Z b fi av;3D b es v gn;1d a D b es v gn;1c a S b es v gn;1d a S b es v gn;A7D0:1c a fn ie G
    1d a fn ie G;A7D3:3l THORN;A7D5:4WYNN;1c a ad SCOTS S;1d a ad SCOTS S;1c a SIGMOID S
    1d a SIGMOID S;A7F2:0dy a c C;3F;3Q;0eo c a aq cd H;1d a aq cd H;1EPIGRAPHIC a SIDEWAYS I
    0dy a c H b v;2d dl OE;0eo a d c bg M;1EPIGRAPHIC a aq F;4P;3ba M;3I LONGA;3hs M
    0SYLOTI NAGRI a A;3I;2g DVISVARA;2a U;3E;3O;2g HASANTA;2a KO;3KHO;3GO;3GHO;2g bv;2a CO;3CHO;3JO
    3JHO;3TTO;3TTHO;3DDO;3DDHO;3TO;3THO;3DO;3DHO;3NO;3PO;3PHO;3BO;3BHO;3MO;3RO;3LO;3RRO;3SO;3HO
    2bm g A;4I;4U;4E;4OO;2POETRY MARK-1>4;2g er HASANTA;A830:0fg INDIC gq br ek;4cd;3t ig
    3br SIXTEENTH;4hd;3t SIXTEENTHS;2ek ai;2PLACEHOLDER ai;2RUPEE ai;2QUANTITY ai
    A840:0PHAGS-PA a KA;2ke;2GA;2je;2CA;2jy;2JA;2kb;2TA;2ks;2DA;2NA;2PA;2PHA;2BA;2MA;2TSA;2TSHA
    2DZA;2WA;2ZHA;2ZA;2d A;2YA;2RA;2LA;2jf;2SA;2HA;2A;2I;2U;2E;2O;2QA;2XA;2FA;2GGA;2EE
    1SUBJOINED a WA;3YA;1a TTA;2il;2DDA;2NNA;2er YA;2VOICELESS jf;2VOICED HA;2ASPIRATED FA
    1SUBJOINED a RA;1SUPERFIXED a RA;1a ci;1bw HEAD ai;1l HEAD ai;1ai SHAD;2l SHAD
    A880:0SAURASHTRA g bv;2dx;1a A;2AA;2I;2II;2U;2UU;2bz R;3RR;3L;3LL;2E;2EE;2AI;2O;2OO;2AU;2KA;2ke
    2GA;2GHA;2je;2CA;2jy;2JA;2JHA;2kb;2TTA;2il;2DDA;2iw;2NNA;2TA;2ks;2DA;2DHA;2NA;2PA;2PHA;2BA;2BHA
    2MA;2YA;2RA;2LA;2VA;2jf;2SSA;2SA;2HA;2LLA;1eq g HAARU;1bm g AA;3I;3II;3U;3UU;3bz R;4RR;4L;4LL
    3E;3EE;3AI;3O;3OO;3AU;1g el;2ci;A8CE:1ic;1l ic;1bs dt;2br;2bj;2t;2at;2ay;2eu;2au;2ar;2cj
    A8E0:0ck DEVANAGARI bs dt;3br;3bj;3t;3at;3ay;3eu;3au;3ar;3cj;2a A;3U;3KA;3NA;3PA;3RA;3VI;2g hw
    0DEVANAGARI g SPACING ci;2ci el;2l ci el;2ci bj;3t;3hw;2PUSHPIKA;1GAP FILLER;1CARET;1HEADSTROKE
    1g SIDDHAM;1JAIN OM;1a AY;1bm g AY;0KAYAH LI bs dt;3br;3bj;3t;3at;3ay;3eu;3au;3ar;3cj;2a KA;3ke
    3GA;3je;3SA;3jf;3ZA;3kb;3TA;3HTA;3NA;3PA;3PHA;3MA;3DA;3BA;3RA;3YA;3LA;3WA;3ks;3HA;3VA;3CA;3A
    3OE;3I;3OO;2bm UE;3E;3U;3EE;3O;2ef PLOPHU;3CALYA;4PLOPHU;2g CWI;3SHYA;0REJANG a KA;2GA;2je;2TA
    2DA;2NA;2PA;2BA;2MA;2CA;2JA;2kb;2SA;2RA;2LA;2YA;2WA;2HA;2MBA;2NGGA;2NDA;2NYJA;2A;1bm g I;3U;3E
    3AI;3O;3AU;3EU;3EA;1eq g NG;3N;3R;3H;1el;A95F:1gi ai;0HANGUL CHOSEONG TIKEUT-MIEUM
    2TIKEUT-PIEUP;2TIKEUT-SIOS;2TIKEUT-CIEUC;2RIEUL-KIYEOK;2RIEUL-SSANGKIYEOK;2RIEUL-TIKEUT
    2RIEUL-SSANGTIKEUT;2RIEUL-MIEUM;2RIEUL-PIEUP;2RIEUL-SSANGPIEUP;2RIEUL-KAPYEOUNPIEUP;2RIEUL-SIOS
    2RIEUL-CIEUC;2RIEUL-KHIEUKH;2MIEUM-KIYEOK;2MIEUM-TIKEUT;2MIEUM-SIOS;2PIEUP-SIOS-THIEUTH
    2PIEUP-KHIEUKH;2PIEUP-HIEUH;2SSANGSIOS-PIEUP;2IEUNG-RIEUL;2IEUNG-HIEUH;2SSANGCIEUC-HIEUH
    2SSANGTHIEUTH;2PHIEUPH-HIEUH;2HIEUH-SIOS;2SSANGYEORINHIEUH;A980:0JAVANESE g PANYANGGA;2CECAK
    2LAYAR;2WIGNYAN;1a A;2I KAWI;2I;2II;2U;2PA CEREK;2je LELET;4RASWADI;2E;2AI;2O;2KA;3SASAK;3MURDA
    2GA;3MURDA;2je;2CA;3MURDA;2JA;2kb MURDA;2JA MAHAPRANA;2kb;2TTA;3MAHAPRANA;2DDA;3MAHAPRANA
    2NA MURDA;2TA;3MURDA;2DA;3MAHAPRANA;2NA;2PA;3MURDA;2BA;3MURDA;2MA;2YA;2RA;3AGUNG;2LA;2WA
    2SA MURDA;3MAHAPRANA;2SA;2HA;1g CECAK TELU;1bm g TARUNG;3TOLONG;3WULU;4MELIK;3SUKU;4MENDUT
    3TALING;3DIRGA MURE;3PEPET;1eq g KERET;3PENGKAL;3CAKRA;1PANGKON;1o RERENGGAN;1h RERENGGAN
    1PADA ANDAP;2MADYA;2LUHUR;2WINDU;2PANGKAT;2LINGSA;2LUNGSI;2ADEG;3ADEG;2PISELEH;1bg PADA PISELEH
    A9CF:1PANGRANGKEP;1bs dt;2br;2bj;2t;2at;2ay;2eu;2au;2ar;2cj;A9DE:1PADA TIRTA TUMETES;2ISEN-ISEN
    0MYANMAR a SHAN GHA;3jy;3JHA;3NNA;3BHA;1g SHAN SAW;1dy a SHAN REDUPLICATION;1a TAI LAING kb;4FA
    4GA;4GHA;4JA;4JHA;4DDA;4iw;4NNA;1TAI LAING bs dt;4br;4bj;4t;4at;4ay;4eu;4au;4ar;4cj
    1a TAI LAING LLA;4DA;4DHA;4BA;4BHA;AA00:0CHAM a A;2I;2U;2E;2AI;2O;2KA;2ke;2GA;2GHA;2NGUE;2je
    2jy;2CHHA;2JA;2JHA;2NHUE;2NHA;2NHJA;2TA;2ks;2DA;2DHA;2NUE;2NA;2DDA;2PA;2PPA;2PHA;2BA;2BHA;2MUE
    2MA;2BBA;2YA;2RA;2LA;2VA;2SSA;2SA;2HA;1bm g AA;3I;3II;3EI;3U;3OE;3O;3AI;3AU;3UE;1eq g YA;3RA
    3LA;3WA;AA40:1a n K;3G;3NG;1eq g n NG;1a n CH;3T;3N;3P;3Y;3R;3L;3SS;1eq g n M;4H;AA50:1bs dt
    2br;2bj;2t;2at;2ay;2eu;2au;2ar;2cj;AA5C:1bc SPIRAL;2ic;2l ic;2dr ic;0MYANMAR a KHAMTI GA;3CA
    3jy;3JA;3JHA;3kb;3TTA;3il;3DDA;3iw;3DHA;3NA;3SA;3HA;3HHA;3FA;1dy a KHAMTI REDUPLICATION
    1a KHAMTI XA;3ZA;3RA;1LOGOGRAM KHAMTI OAY;3QN;3HM;1w AITON cy;3br;3bj;1a AITON RA
    1g PAO KAREN ef;2TAI LAING TONE-2;4TONE-5;1a SHWE PALAUNG jy;4jf;0TAI VIET a ho KO;3ew KO
    3ho KHO;3ew KHO;3ho KHHO;3ew KHHO;3ho GO;3ew GO;3ho NGO;3ew NGO;3ho CO;3ew CO;3ho CHO;3ew CHO
    3ho SO;3ew SO;3ho NYO;3ew NYO;3ho DO;3ew DO;3ho TO;3ew TO;3ho THO;3ew THO;3ho NO;3ew NO;3ho BO
    3ew BO;3ho PO;3ew PO;3ho PHO;3ew PHO;3ho FO;3ew FO;3ho MO;3ew MO;3ho YO;3ew YO;3ho RO;3ew RO
    3ho LO;3ew LO;3ho VO;3ew VO;3ho HO;3ew HO;3ho O;3ew O;2MAI KANG;2bm AA;3I;3UE;3U;3E;3O
    2MAI KHIT;2bm IA;3UEA;3UA;3AUE;3AY;3AN;3AM;2ef MAI EK;4NUENG;4THO;4SONG;AADB:2w KON;3NUENG;3SAM
    3HO HOI;3KOI KOI;0MEETEI MAYEK a E;3O;3jy;3kb;3TTA;3il;3DDA;3iw;3NNA;3jf;3SSA;2bm g II;4UU;4AAI
    4AU;4AAU;2CHEIKHAN;2AHANG KHUDAM;2ANJI;2hm REPETITION ai;2WORD REPETITION ai;2bm g dx;2el
    AB01:0ETHIOPIC hm TTHU;2TTHI;2TTHAA;2TTHEE;2TTHE;2TTHO;AB09:2DDHU;2DDHI;2DDHAA;2DDHEE;2DDHE
    2DDHO;AB11:2DZU;2DZI;2DZAA;2DZEE;2DZE;2DZO;AB20:2CCHHA;2CCHHU;2CCHHI;2CCHHAA;2CCHHEE;2CCHHE
    2CCHHO;AB28:2BBA;2BBU;2BBI;2BBAA;2BBEE;2BBE;2BBO;AB30:0eo d a BARRED hj;3A REVERSED-SCHWA
    3BLACKLETTER E;3BARRED E;3E b FLOURISH;3LENIS F;3hk G b iq;3L b ba LAZY S;5l ad bq;5ad di
    3M b iq;3N b iq;3ENG b iq;3BLACKLETTER O;5b v;3eg O b v;3ba OE;3bg OE b v;6x v;4O OPEN-O;6b v
    3STIRRUP R;1a d c R b h LEG;1d a R WITHOUT HANDLE;3l R;3R b iq;3l R b iq;3hk R;5b di
    3BASELINE ESH;3U b es h LEG;4fc b es h LEG;3UI;3bg UI;3U b o av;3CHI;4b ho h di;6o SERIF
    3X b ho h di;5ej o LEG;8p ho h di;8b SERIF;3Y b es h LEG;0dy ed b ba ed;1a d HENG
    3L b ba LAZY S;5ad bq;3U b o av;0eo d a SAKHA YAT;3ht E;3eg OE;3UO;3ba hj;0jg a d c gm
    0eo d a DZ fq b ca av;3TS fq b ca av;3bg R b ad bq;0dy a d bg W;2o jx;2h jx
    AB70:0CHEROKEE d a A;3E;3I;3O;3U;3V;3GA;3KA;3GE;3GI;3GO;3GU;3GV;3HA;3HE;3HI;3HO;3HU;3HV;3LA;3LE
    3LI;3LO;3LU;3LV;3MA;3ME;3MI;3MO;3MU;3NA;3HNA;3NAH;3NE;3NI;3NO;3NU;3NV;3QUA;3QUE;3QUI;3QUO;3QUU
    3QUV;3SA;3S;3SE;3SI;3SO;3SU;3SV;3DA;3TA;3DE;3TE;3DI;3TI;3DO;3DU;3DV;3DLA;3TLA;3TLE;3TLI;3TLO
    3TLU;3TLV;3TSA;3TSE;3TSI;3TSO;3TSU;3TSV;3WA;3WE;3WI;3WO;3WU;3WV;3YA;0MEETEI MAYEK a KOK;3SAM
    3LAI;3MIT;3PA;3NA;3CHIL;3TIL;3KHOU;3NGOU;3THOU;3WAI;3YANG;3HUK;3UN;3I;3PHAM;3ATIYA;3GOK;3JHAM
    3RAI;3BA;3JIL;3DIL;3GHOU;3DHOU;3BHAM;3KOK LONSUM;3LAI LONSUM;3MIT LONSUM;3PA LONSUM;3NA LONSUM
    3TIL LONSUM;3NGOU LONSUM;3I LONSUM;2bm g ONAP;4INAP;4ANAP;4YENAP;4SOUNAP;4UNAP;4CHEINAP;4NUNG
    2CHEIKHEI;2LUM IYEK;2APUN IYEK;ABF0:2bs dt;3br;3bj;3t;3at;3ay;3eu;3au;3ar;3cj
    D7B0:0HANGUL JUNGSEONG O-YEO;2O-O-I;2YO-A;2YO-AE;2YO-EO;2U-YEO;2U-I-I;2YU-AE;2YU-O;2EU-A;2EU-EO
    2EU-E;2EU-O;2I-YA-O;2I-YAE;2I-YEO;2I-YE;2I-O-I;2I-YO;2I-YU;2I-I;2ARAEA-A;2ARAEA-E
    D7CB:1JONGSEONG NIEUN-RIEUL;2NIEUN-CHIEUCH;2SSANGTIKEUT;2SSANGTIKEUT-PIEUP;2TIKEUT-PIEUP
    2TIKEUT-SIOS;2TIKEUT-SIOS-KIYEOK;2TIKEUT-CIEUC;2TIKEUT-CHIEUCH;2TIKEUT-THIEUTH
    2RIEUL-SSANGKIYEOK;2RIEUL-KIYEOK-HIEUH;2SSANGRIEUL-KHIEUKH;2RIEUL-MIEUM-HIEUH
    2RIEUL-PIEUP-TIKEUT;2RIEUL-PIEUP-PHIEUPH;2RIEUL-YESIEUNG;2RIEUL-YEORINHIEUH-HIEUH
    2KAPYEOUNRIEUL;2MIEUM-NIEUN;2MIEUM-SSANGNIEUN;2SSANGMIEUM;2MIEUM-PIEUP-SIOS;2MIEUM-CIEUC
    2PIEUP-TIKEUT;2PIEUP-RIEUL-PHIEUPH;2PIEUP-MIEUM;2SSANGPIEUP;2PIEUP-SIOS-TIKEUT;2PIEUP-CIEUC
    2PIEUP-CHIEUCH;2SIOS-MIEUM;2SIOS-KAPYEOUNPIEUP;2SSANGSIOS-KIYEOK;2SSANGSIOS-TIKEUT
    2SIOS-PANSIOS;2SIOS-CIEUC;2SIOS-CHIEUCH;2SIOS-THIEUTH;2SIOS-HIEUH;2PANSIOS-PIEUP
    2PANSIOS-KAPYEOUNPIEUP;2YESIEUNG-MIEUM;2YESIEUNG-HIEUH;2CIEUC-PIEUP;2CIEUC-SSANGPIEUP
    2SSANGCIEUC;2PHIEUPH-SIOS;2PHIEUPH-THIEUTH;F900:0CJK COMPATIBILITY IDEOGRAPH-F900#366
    FA70:2IDEOGRAPH-FA70#106;FB00:0eo d dl FF;3FI;3FL;3FFI;3FFL;3ej S T;3ST
    FB13:0ARMENIAN d dl MEN NOW;4ECH;4INI;3VEW NOW;3MEN XEH;FB1D:0HEBREW a YOD b HIRIQ
    1POINT JUDEO-SPANISH VARIKA;1dl YIDDISH YOD YOD PATAH;1a ALTERNATIVE AYIN;2WIDE db;3DALET;3HE
    3KAF;3LAMED;3n MEM;3RESH;3TAV;2ALTERNATIVE by g;2lj b lj bx;4SIN bx;4hy p lj bx;6SIN bx
    2db b PATAH;4QAMATS;4MAPIQ;2BET b hy;2GIMEL b hy;2DALET b hy;2HE b MAPIQ;2VAV b hy;2ZAYIN b hy
    FB38:2TET b hy;2YOD b hy;2n KAF b hy;2KAF b hy;2LAMED b hy;FB3E:2MEM b hy;FB40:2NUN b hy
    2kr b hy;FB43:2n PE b hy;2PE b hy;FB46:2TSADI b hy;2QOF b hy;2RESH b hy;2lj b hy;2TAV b hy
    2VAV b HOLAM;2BET b RAFE;2KAF b RAFE;2PE b RAFE;1dl db LAMED;0ji a db WASLA j e;4n e;2BEEH j e
    3n e;3s e;3bf e;2PEH j e;3n e;3s e;3bf e;2BEHEH j e;3n e;3s e;3bf e;2TTEHEH j e;3n e;3s e;3bf e
    2TEHEH j e;3n e;3s e;3bf e;2TTEH j e;3n e;3s e;3bf e;2VEH j e;3n e;3s e;3bf e;2PEHEH j e;3n e
    3s e;3bf e;2DYEH j e;3n e;3s e;3bf e;2NYEH j e;3n e;3s e;3bf e;2TCHEH j e;3n e;3s e;3bf e
    2TCHEHEH j e;3n e;3s e;3bf e;2DDAHAL j e;3n e;2DAHAL j e;3n e;2DUL j e;3n e;2DDAL j e;3n e
    2JEH j e;3n e;2RREH j e;3n e;2KEHEH j e;3n e;3s e;3bf e;2GAF j e;3n e;3s e;3bf e;2GUEH j e;3n e
    3s e;3bf e;2NGOEH j e;3n e;3s e;3bf e;2jb GHUNNA j e;4n e;2RNOON j e;3n e;3s e;3bf e
    2HEH b ge i j e;6n e;3GOAL j e;4n e;4s e;4bf e;3DOACHASHMEE j e;4n e;4s e;4bf e;2ge BARREE j e
    4n e;4b gy i j e;7n e;1w bx i;3m;2bj cu i;4m;2t cu i;4m;4bb aa i;6m;2at cu i;4m;2l q fc m
    2bj cu VERTICALLY i;5m;2di;2d TAH i;4m;2WASLA i;FBD3:1a NG j e;3n e;3s e;3bf e;2U j e;3n e
    2OE j e;3n e;2YU j e;3n e;2U b gy i j e;2VE j e;3n e;2KIRGHIZ OE j e;4n e;3YU j e;4n e;2E j e
    3n e;3s e;3bf e;2UIGHUR KAZAKH KIRGHIZ db bl s e;7bf e;1dl ge b gy i b db j e;8n e;7AE j e;8n e
    7WAW j e;8n e;7U j e;8n e;7OE j e;8n e;7YU j e;8n e;7E j e;8n e;8s e
    2UIGHUR KIRGHIZ ge b gy i b db bl j e;Bn e;Bs e;1a FARSI ge j e;4n e;4s e;4bf e
    1dl ge b gy i b ei j e;7hv j e;7bu j e;7db bl j e;7ge j e;2BEH b ei j e;4hv j e;4gv j e;4bu j e
    4db bl j e;4ge j e;2TEH b ei j e;4hv j e;4gv j e;4bu j e;4db bl j e;4ge j e;2THEH b ei j e
    4bu j e;4db bl j e;4ge j e;2ei b hv j e;4bu j e;2hv b ei j e;4bu j e;2gv b ei j e;4hv j e
    4bu j e;2SEEN b ei j e;4hv j e;4gv j e;4bu j e;2SAD b hv j e;4bu j e;2DAD b ei j e;4hv j e
    4gv j e;4bu j e;2TAH b hv j e;4bu j e;2ZAH b bu j e;2AIN b ei j e;4bu j e;2GHAIN b ei j e
    4bu j e;2FEH b ei j e;4hv j e;4gv j e;4bu j e;4db bl j e;4ge j e;2QAF b hv j e;4bu j e
    4db bl j e;4ge j e;2KAF b db j e;4ei j e;4hv j e;4gv j e;4LAM j e;4bu j e;4db bl j e;4ge j e
    2LAM b ei j e;4hv j e;4gv j e;4bu j e;4db bl j e;4ge j e;2bu b ei j e;4hv j e;4gv j e;4bu j e
    4db bl j e;4ge j e;2jb b ei j e;4hv j e;4gv j e;4bu j e;4db bl j e;4ge j e;2HEH b ei j e
    4bu j e;4db bl j e;4ge j e;2ge b ei j e;4hv j e;4gv j e;4bu j e;4db bl j e;4ge j e
    2THAL b gp db j e;2REH b gp db j e;2db bl b gp db j e;2SHADDA b DAMMATAN j e;4KASRATAN j e
    4FATHA j e;4DAMMA j e;4KASRA j e;4gp db j e;2ge b gy i b REH n e;7ZAIN n e;7bu n e;7jb n e
    7db bl n e;7ge n e;2BEH b REH n e;4ZAIN n e;4bu n e;4jb n e;4db bl n e;4ge n e;2TEH b REH n e
    4ZAIN n e;4bu n e;4jb n e;4db bl n e;4ge n e;2THEH b REH n e;4ZAIN n e;4bu n e;4jb n e
    4db bl n e;4ge n e;2FEH b db bl n e;4ge n e;2QAF b db bl n e;4ge n e;2KAF b db n e;4LAM n e
    4bu n e;4db bl n e;4ge n e;2LAM b bu n e;4db bl n e;4ge n e;2bu b db n e;4bu n e;2jb b REH n e
    4ZAIN n e;4bu n e;4jb n e;4db bl n e;4ge n e;2db bl b gp db n e;2ge b REH n e;4ZAIN n e;4bu n e
    4jb n e;4db bl n e;4ge n e;4gy i b ei s e;7hv s e;7gv s e;7bu s e;7HEH s e;2BEH b ei s e
    4hv s e;4gv s e;4bu s e;4HEH s e;2TEH b ei s e;4hv s e;4gv s e;4bu s e;4HEH s e;2THEH b bu s e
    2ei b hv s e;4bu s e;2hv b ei s e;4bu s e;2gv b ei s e;4bu s e;2SEEN b ei s e;4hv s e;4gv s e
    4bu s e;2SAD b hv s e;4gv s e;4bu s e;2DAD b ei s e;4hv s e;4gv s e;4bu s e;2TAH b hv s e
    2ZAH b bu s e;2AIN b ei s e;4bu s e;2GHAIN b ei s e;4bu s e;2FEH b ei s e;4hv s e;4gv s e
    4bu s e;2QAF b hv s e;4bu s e;2KAF b ei s e;4hv s e;4gv s e;4LAM s e;4bu s e;2LAM b ei s e
    4hv s e;4gv s e;4bu s e;4HEH s e;2bu b ei s e;4hv s e;4gv s e;4bu s e;2jb b ei s e;4hv s e
    4gv s e;4bu s e;4HEH s e;2HEH b ei s e;4bu s e;4gp db s e;2ge b ei s e;4hv s e;4gv s e;4bu s e
    4HEH s e;4gy i b bu bf e;7HEH bf e;2BEH b bu bf e;4HEH bf e;2TEH b bu bf e;4HEH bf e
    2THEH b bu bf e;4HEH bf e;2SEEN b bu bf e;4HEH bf e;2SHEEN b bu bf e;4HEH bf e;2KAF b LAM bf e
    4bu bf e;2LAM b bu bf e;2jb b bu bf e;4HEH bf e;2ge b bu bf e;4HEH bf e;2SHADDA b FATHA bf e
    4DAMMA bf e;4KASRA bf e;2TAH b db bl j e;4ge j e;2AIN b db bl j e;4ge j e;2GHAIN b db bl j e
    4ge j e;2SEEN b db bl j e;4ge j e;2SHEEN b db bl j e;4ge j e;2hv b db bl j e;4ge j e
    2ei b db bl j e;4ge j e;2gv b db bl j e;4ge j e;2SAD b db bl j e;4ge j e;2DAD b db bl j e
    4ge j e;2SHEEN b ei j e;4hv j e;4gv j e;4bu j e;4REH j e;2SEEN b REH j e;2SAD b REH j e
    2DAD b REH j e;2TAH b db bl n e;4ge n e;2AIN b db bl n e;4ge n e;2GHAIN b db bl n e;4ge n e
    2SEEN b db bl n e;4ge n e;2SHEEN b db bl n e;4ge n e;2hv b db bl n e;4ge n e;2ei b db bl n e
    4ge n e;2gv b db bl n e;4ge n e;2SAD b db bl n e;4ge n e;2DAD b db bl n e;4ge n e
    2SHEEN b ei n e;4hv n e;4gv n e;4bu n e;4REH n e;2SEEN b REH n e;2SAD b REH n e;2DAD b REH n e
    2SHEEN b ei s e;4hv s e;4gv s e;4bu s e;2SEEN b HEH s e;2SHEEN b HEH s e;2TAH b bu s e
    2SEEN b ei bf e;4hv bf e;4gv bf e;2SHEEN b ei bf e;4hv bf e;4gv bf e;2TAH b bu bf e
    2ZAH b bu bf e;2db b FATHATAN n e;5j e;0ORNATE o be;1h be;0ji dl RAHIMAHU ALLAAH
    2RADI ALLAAHU ANH;4ANHAA;4ANHUM;4ANHUMAA;4ANHUNNA;2SALLALLAAHU ALAYHI WA-AALIH
    2ALAYHI AS-SALAAM;2ALAYHIM AS-SALAAM;2ALAYHIMAA AS-SALAAM;2ALAYHI AS-SALAATU WAS-SALAAM
    2QUDDISA SIRRAH;2SALLALLAHU ALAYHI WAAALIHEE WA-SALLAM;2ALAYHAA AS-SALAAM;2TABAARAKA WA-TAAALAA
    2RAHIMAHUM ALLAAH;2TEH b ei b bu s e;4hv b ei n e;7s e;6bu s e;4gv b bu s e;4bu b ei s e
    6hv s e;6gv s e;2ei b bu b hv n e;7s e;2hv b bu b ge n e;6db bl n e;2SEEN b hv b ei s e
    4ei b hv s e;6db bl n e;4bu b hv n e;7s e;6ei s e;6bu n e;7s e;2SAD b hv b hv n e;7s e
    4bu b bu n e;2SHEEN b hv b bu n e;7s e;4ei b ge n e;4bu b gv n e;7s e;6bu n e;7s e
    2DAD b hv b db bl n e;4gv b bu n e;7s e;2TAH b bu b hv n e;7s e;6bu s e;6ge n e
    2AIN b ei b bu n e;4bu b bu n e;7s e;6db bl n e;2GHAIN b bu b bu n e;6ge n e;6db bl n e
    2FEH b gv b bu n e;7s e;2QAF b bu b hv n e;6bu n e;2LAM b hv b bu n e;6ge n e;6db bl n e
    4ei b ei s e;7n e;4gv b bu n e;7s e;4bu b hv n e;7s e;2bu b hv b ei s e;6bu s e;6ge n e
    4ei b hv s e;6bu s e;4gv b ei s e;6bu s e;FD92:4ei b gv s e;2HEH b bu b ei s e;6bu s e
    2jb b hv b bu s e;6db bl n e;4ei b bu n e;7s e;6db bl n e;4bu b ge n e;6db bl n e
    2ge b bu b bu n e;7s e;2BEH b gv b ge n e;2TEH b ei b ge n e;6db bl n e;4gv b ge n e;6db bl n e
    4bu b ge n e;6db bl n e;2ei b bu b ge n e;4hv b db bl n e;4bu b db bl n e
    2SEEN b gv b db bl n e;2SAD b hv b ge n e;2SHEEN b hv b ge n e;2DAD b hv b ge n e
    2LAM b ei b ge n e;4bu b ge n e;2ge b hv b ge n e;4ei b ge n e;4bu b ge n e;2bu b bu b ge n e
    2QAF b bu b ge n e;2jb b hv b ge n e;2QAF b bu b hv s e;2LAM b hv b bu s e;2AIN b bu b ge n e
    2KAF b bu b ge n e;2jb b ei b hv s e;2bu b gv b ge n e;2LAM b ei b bu s e;2KAF b bu b bu n e
    2LAM b ei b bu n e;2jb b ei b hv n e;2ei b hv b ge n e;2hv b ei b ge n e;2bu b ei b ge n e
    2FEH b bu b ge n e;2BEH b hv b ge n e;2KAF b bu b bu s e;2AIN b ei b bu s e;2SAD b bu b bu s e
    2SEEN b gv b ge n e;2jb b ei b ge n e;FDCF:2SALAAMUHU ALAYNAA
    FDF0:2SALLA USED AS KORANIC fb g j e;2QALA USED AS KORANIC fb g j e;2ALLAH j e;2AKBAR j e
    2MOHAMMAD j e;2SALAM j e;2RASOUL j e;2ALAYHE j e;2WASALLAM j e;2SALLA j e
    2SALLALLAHOU ALAYHE WASALLAM;2JALLAJALALOUHOU;0RIAL g;0ji dl BISMILLAH AR-RAHMAN AR-RAHEEM
    2SUBHAANAHU WA TAAALAA;2AZZA WA JALL;0VARIATION SELECTOR-1>16;0PRESENTATION e FOR q dq;4fv dq
    5hf fb;4hp;4iz;4cy ai;4ec ai;4o z kf ae;4h z kf BRAKCET;4x ELLIPSIS;FE20:0ck dl o cd;2h cd
    1l bq o cd;3h cd;1cp o cd;2h cd;1CONJOINING cp;1dl o cd m;2h cd m;1bq o cd m;2h cd m;1cp o cd m
    2h cd m;1CONJOINING cp m;1iv TITLO o cd;3h cd;0PRESENTATION e FOR q bj bx LEADER;4EM im;4EN im
    4ho ey;4WAVY ho ey;4o be;4h be;4o jc ae;4h jc ae;4o hg jt ae;4h hg jt ae;4o y kf ae;4h y kf ae
    4o l ep ae;4h l ep ae;4o ep ae;4h ep ae;4o ga ae;4h ga ae;4o z ga ae;4h z ga ae;0SESAME bx
    0z SESAME bx;0PRESENTATION e FOR q o an ae;4h an ae;0DASHED OVERLINE;0CENTRELINE OVERLINE
    0WAVY OVERLINE;0l WAVY OVERLINE;0DASHED ho ey;0CENTRELINE ho ey;0WAVY ho ey;0d dq;1fv dq;1hf fb
    FE54:1iz;1hp;1ec ai;1cy ai;1EM im;1o be;1h be;1o jc ae;1h jc ae;1o hg jt ae;1h hg jt ae;1cq g
    1AMPERSAND;1ch;1by g;1HYPHEN-MINUS;1aw g;1aj g;1fm g;FE68:1gx gh;1DOLLAR g;1PERCENT g
    1COMMERCIAL AT;FE70:0ji FATHATAN j e;1TATWEEL b FATHATAN i;1DAMMATAN j e;1gr FRAGMENT
    1KASRATAN j e;FE76:1FATHA j e;2bf e;1DAMMA j e;2bf e;1KASRA j e;2bf e;1SHADDA j e;2bf e
    1SUKUN j e;2bf e;1a gy j e;2db b MADDA i j e;6n e;4gy i j e;6n e;2WAW b gy i j e;6n e
    2db b gy m j e;6n e;2ge b gy i j e;6n e;6s e;6bf e;2db j e;3n e;2BEH j e;3n e;3s e;3bf e
    2TEH MARBUTA j e;4n e;3j e;3n e;3s e;3bf e;2THEH j e;3n e;3s e;3bf e;2ei j e;3n e;3s e;3bf e
    2hv j e;3n e;3s e;3bf e;2gv j e;3n e;3s e;3bf e;2DAL j e;3n e;2THAL j e;3n e;2REH j e;3n e
    2ZAIN j e;3n e;2SEEN j e;3n e;3s e;3bf e;2SHEEN j e;3n e;3s e;3bf e;2SAD j e;3n e;3s e;3bf e
    2DAD j e;3n e;3s e;3bf e;2TAH j e;3n e;3s e;3bf e;2ZAH j e;3n e;3s e;3bf e;2AIN j e;3n e;3s e
    3bf e;2GHAIN j e;3n e;3s e;3bf e;2FEH j e;3n e;3s e;3bf e;2QAF j e;3n e;3s e;3bf e;2KAF j e
    3n e;3s e;3bf e;2LAM j e;3n e;3s e;3bf e;2bu j e;3n e;3s e;3bf e;2jb j e;3n e;3s e;3bf e
    2HEH j e;3n e;3s e;3bf e;2WAW j e;3n e;2db bl j e;4n e;2ge j e;3n e;3s e;3bf e
    1dl LAM b db b MADDA i j e;8n e;6gy i j e;8n e;7m j e;8n e;5j e;5n e;FEFF:0dt WIDTH NO-BREAK kj
    FF01:0FULLWIDTH cy ai;1dh ai;1cq g;1DOLLAR g;1PERCENT g;1AMPERSAND;1kd;1o be;1h be;1ch;1by g
    1dq;1HYPHEN-MINUS;1hf fb;1gh;1bs dt;2br;2bj;2t;2at;2ay;2eu;2au;2ar;2cj;1hp;1iz;1aw g;1fm g
    1aj g;1ec ai;1COMMERCIAL AT;1eo c a A;4B;4C;4D;4E;4F;4G;4H;4I;4J;4K;4L;4M;4N;4O;4P;4Q;4R;4S;4T
    4U;4V;4W;4X;4Y;4Z;1o an ae;1gx gh;1h an ae;1af ev;1ho ey;1df ev;1eo d a A;4B;4C;4D;4E;4F;4G;4H
    4I;4J;4K;4L;4M;4N;4O;4P;4Q;4R;4S;4T;4U;4V;4W;4X;4Y;4Z;1o jc ae;1q ey;1h jc ae;1bq;1o z be
    1h z be;0HALFWIDTH fv hf fb;1o ga ae;1h ga ae;1fv dq;1lf ad bx;2a WO;3d A;4I;4U;4E;4O;4YA;4YU
    4YO;4TU;1le PROLONGED SOUND ai;1lf a A;3I;3U;3E;3O;3KA;3KI;3KU;3KE;3KO;3SA;3SI;3SU;3SE;3SO;3TA
    3TI;3TU;3TE;3TO;3NA;3NI;3NU;3NE;3NO;3HA;3HI;3HU;3HE;3HO;3MA;3MI;3MU;3ME;3MO;3YA;3YU;3YO;3RA;3RI
    3RU;3RE;3RO;3WA;3N;2VOICED SOUND ai;2SEMI-VOICED SOUND ai;1HANGUL FILLER;2a KIYEOK;3SSANGKIYEOK
    3KIYEOK-SIOS;3NIEUN;3NIEUN-CIEUC;3NIEUN-HIEUH;3TIKEUT;3SSANGTIKEUT;3RIEUL;3RIEUL-KIYEOK
    3RIEUL-MIEUM;3RIEUL-PIEUP;3RIEUL-SIOS;3RIEUL-THIEUTH;3RIEUL-PHIEUPH;3RIEUL-HIEUH;3MIEUM;3PIEUP
    3SSANGPIEUP;3PIEUP-SIOS;3SIOS;3SSANGSIOS;3IEUNG;3CIEUC;3SSANGCIEUC;3CHIEUCH;3KHIEUKH;3THIEUTH
    3PHIEUPH;3HIEUH;FFC2:3A;3AE;3YA;3YAE;3EO;3E;FFCA:3YEO;3YE;3O;3WA;3WAE;3OE;FFD2:3YO;3U;3WEO;3WE
    3WI;3YU;FFDA:3EU;3YI;3I;FFE0:0FULLWIDTH CENT g;1POUND g;1li g;1cp;1BROKEN fc;1YEN g;1WON g
    FFE8:0HALFWIDTH FORMS bn q;1r f;1ap f;1k f;1aa f;1y an;1z ao
    FFF9:0INTERLINEAR ANNOTATION ANCHOR;2dc;2TERMINATOR;0OBJECT REPLACEMENT gz;0REPLACEMENT gz"

end Laminar.Text
