/-!
# Names of characters: aliases

Further names of characters (Unicode 14): names of controls, corrections, and abbreviations.
-/

namespace Laminar.Text

/-- Further names of characters. -/
def aliasNames : String :=
  "0:0NUL;0:0NULL;1:0SOH;1:0START OF HEADING;2:2TEXT;2:0STX;3:0END OF TEXT;3:0ETX
    4:0END OF TRANSMISSION;4:0EOT;5:0ENQ;5:0ENQUIRY;6:0ACK;6:0ACKNOWLEDGE;7:0ALERT;7:0BEL
    8:0BACKSPACE;8:0BS;9:0gz ia;9:0x ia;9:0HT;9:0TAB;A:0END OF ey;A:0EOL;A:0LF;A:0ey FEED;A:0NEW ey
    A:0NL;B:0ey ia;B:0q ia;B:0VT;C:0FF;C:0e FEED;D:0CARRIAGE RETURN;D:0CR;E:0LOCKING-SHIFT br
    E:0SHIFT OUT;E:0SO;F:0LOCKING-SHIFT dt;F:0SHIFT IN;F:0SI;10:0DATA LINK ESCAPE;10:0DLE;11:0DC1
    11:0DEVICE CONTROL br;12:0DC2;12:0DEVICE CONTROL bj;13:0DC3;13:0DEVICE CONTROL t;14:0DC4
    14:0DEVICE CONTROL at;15:0NAK;15:0hx ACKNOWLEDGE;16:0SYN;16:0SYNCHRONOUS IDLE
    17:0END OF TRANSMISSION du;17:0ETB;18:0CAN;18:0CANCEL;19:0END OF bd;19:0EOM;1A:0SUB
    1A:0SUBSTITUTE;1B:0ESC;1B:0ESCAPE;1C:0FILE dc;1C:0FS;1C:0INFORMATION dc at;1D:0GROUP dc;1D:0GS
    1D:0INFORMATION dc t;1E:2bj;1E:0RECORD dc;1E:0RS;1F:0INFORMATION dc br;1F:0UNIT dc;1F:0US
    20:0SP;7F:0DEL;7F:0DELETE;80:0PAD;80:0PADDING gz;81:0ew OCTET PRESET;81:0HOP;82:0BPH
    82:0BREAK PERMITTED HERE;83:0NBH;83:0NO BREAK HERE;84:0IND;84:0bi;85:0NEL;85:0NEXT ey;86:0SSA
    86:0START OF SELECTED AREA;87:0END OF SELECTED AREA;87:0ESA;88:0gz ia SET;88:0x ia SET;88:0HTS
    89:0gz ia b JUSTIFICATION;89:0x ia b JUSTIFICATION;89:0HTJ;8A:0ey ia SET;8A:0q ia SET;8A:0VTS
    8B:0PARTIAL ey ce;8B:2if;8B:0PLD;8C:0PARTIAL ey BACKWARD;8C:2UP;8C:0PLU;8D:0gx bi;8D:1ey FEED
    8D:0RI;8E:0bw SHIFT bj;8E:0SINGLE-SHIFT-2;8E:0SS2;8F:0bw SHIFT t;8F:0SINGLE-SHIFT-3;8F:0SS3
    90:0DCS;90:0DEVICE CONTROL STRING;91:0PRIVATE USE br;91:1USE-1;91:0PU1;92:0PRIVATE USE bj
    92:1USE-2;92:0PU2;93:0SET TRANSMIT STATE;93:0STS;94:0CANCEL gz;94:0CCH;95:0MESSAGE WAITING
    95:0MW;96:0SPA;96:0START OF GUARDED AREA;96:2PROTECTED AREA;97:0END OF GUARDED AREA
    97:2PROTECTED AREA;97:0EPA;98:0SOS;98:0START OF STRING;99:0SGC;99:0bw GRAPHIC gz INTRODUCER
    9A:0SCI;9A:0bw gz INTRODUCER;9B:0CONTROL SEQUENCE INTRODUCER;9B:0CSI;9C:0ST
    9C:0STRING TERMINATOR;9D:0OPERATING SYSTEM COMMAND;9D:0OSC;9E:0PM;9E:0PRIVACY MESSAGE;9F:0APC
    9F:0APPLICATION PROGRAM COMMAND;A0:0NBSP;AD:0SHY;1A2:0eo c a GHA;1A3:1d a GHA;34F:0CGJ;61C:0ALM
    709:0SYRIAC SUBLINEAR hp SKEWED o;CDE:0KANNADA a LLLA;E9D:0LAO a FO FON;E9F:3FAY;EA3:2RO
    EA5:2LO;FD0:0TIBETAN ai BKA- SHOG GI MGO RGYAN;11EC:0HANGUL JONGSEONG YESIEUNG-KIYEOK
    11ED:2YESIEUNG-SSANGKIYEOK;11EE:2SSANGYESIEUNG;11EF:2YESIEUNG-KHIEUKH;180B:0FVS1>3;180E:0MVS
    180F:0FVS4;200B:0ZWSP;200C:0ZWNJ;200D:0ZWJ;200E:0LRM;200F:0RLM;202A:0LRE;202B:0RLE;202C:0PDF
    202D:0LRO;202E:0RLO;202F:0NNBSP;205F:0MMSP;2060:0WJ;2066:0LRI;2067:0RLI;2068:0FSI;2069:0PDI
    2118:0WEIERSTRASS ELLIPTIC FUNCTION;2448:0MICR ON US w;2449:1im w;2B7A:0r u f b l q v
    2B7C:0k u f b l q v;A015:0YI hm km ai;AA6E:0MYANMAR a KHAMTI LLA;FE00:0VS1>16
    FE18:0PRESENTATION e FOR q h z kf ae;FEFF:0BOM;FEFF:0BYTE ORDER ai;FEFF:0ZWNBSP
    122D4:0CUNEIFORM g NU11 in;122D5:3cv NU11 BUR cv BUR;16E56:0MEDEFAIDRIN c a H;16E57:3NG
    16E76:1d a H;16E77:3NG;1B001:0HENTAIGANA a E-1
    1D0C5:0BYZANTINE kt w FTHORA SKLIRON CHROMA VASIS;E0100:0VS17>240"

end Laminar.Text
