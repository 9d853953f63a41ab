/-
The characters of host names, as ranges of code points.

A host name is mapped before it is judged: a character stands for itself, for others, for nothing,
or is not allowed. The tables list the characters that may be written and those among them that
are mapped away, and the mappings that have an ASCII character in them; then what the rules on
writing direction and on joiners ask about.
-/
import ValueSchema.Text.CodeSet

set_option autoImplicit false

namespace ValueSchema.Text.HostName

/-! ## Mapping -/

/-- The characters above ASCII that may be written, joiners apart. -/
def allowed : CodeSet := CodeSet.ofText
  "A1-A7 A9-AE B0-B3 B5-B7 B9-2D7 2DE-377 37B-37F 386-38A 38C 38E-3A1 3A3-4BF 4C1-52F 531-556
   559-58A 58D-58F 591-5C7 5D0-5EA 5EF-5F4 606-61B 61D-6DC 6DE-70D 710-74A 74D-7B1 7C0-7FA 7FD-82D
   830-83E 840-85B 85E 860-86A 870-88E 898-8E1 8E3-983 985-98C 98F-990 993-9A8 9AA-9B0 9B2 9B6-9B9
   9BC-9C4 9C7-9C8 9CB-9CE 9D7 9DC-9DD 9DF-9E3 9E6-9FE A01-A03 A05-A0A A0F-A10 A13-A28 A2A-A30
   A32-A33 A35-A36 A38-A39 A3C A3E-A42 A47-A48 A4B-A4D A51 A59-A5C A5E A66-A76 A81-A83 A85-A8D
   A8F-A91 A93-AA8 AAA-AB0 AB2-AB3 AB5-AB9 ABC-AC5 AC7-AC9 ACB-ACD AD0 AE0-AE3 AE6-AF1 AF9-AFF
   B01-B03 B05-B0C B0F-B10 B13-B28 B2A-B30 B32-B33 B35-B39 B3C-B44 B47-B48 B4B-B4D B55-B57 B5C-B5D
   B5F-B63 B66-B77 B82-B83 B85-B8A B8E-B90 B92-B95 B99-B9A B9C B9E-B9F BA3-BA4 BA8-BAA BAE-BB9
   BBE-BC2 BC6-BC8 BCA-BCD BD0 BD7 BE6-BFA C00-C0C C0E-C10 C12-C28 C2A-C39 C3C-C44 C46-C48 C4A-C4D
   C55-C56 C58-C5A C5D C60-C63 C66-C6F C77-C8C C8E-C90 C92-CA8 CAA-CB3 CB5-CB9 CBC-CC4 CC6-CC8
   CCA-CCD CD5-CD6 CDD-CDE CE0-CE3 CE6-CEF CF1-CF3 D00-D0C D0E-D10 D12-D44 D46-D48 D4A-D4F D54-D63
   D66-D7F D81-D83 D85-D96 D9A-DB1 DB3-DBB DBD DC0-DC6 DCA DCF-DD4 DD6 DD8-DDF DE6-DEF DF2-DF4
   E01-E3A E3F-E5B E81-E82 E84 E86-E8A E8C-EA3 EA5 EA7-EBD EC0-EC4 EC6 EC8-ECE ED0-ED9 EDC-EDF
   F00-F47 F49-F6C F71-F97 F99-FBC FBE-FCC FCE-FDA 1000-109F 10C7 10CD 10D0-115E 1161-1248
   124A-124D 1250-1256 1258 125A-125D 1260-1288 128A-128D 1290-12B0 12B2-12B5 12B8-12BE 12C0
   12C2-12C5 12C8-12D6 12D8-1310 1312-1315 1318-135A 135D-137C 1380-1399 13A0-13F5 13F8-13FD
   1400-167F 1681-169C 16A0-16F8 1700-1715 171F-1736 1740-1753 1760-176C 176E-1770 1772-1773
   1780-17B3 17B6-17DD 17E0-17E9 17F0-17F9 1800-1805 1807-180D 180F-1819 1820-1878 1880-18AA
   18B0-18F5 1900-191E 1920-192B 1930-193B 1940 1944-196D 1970-1974 1980-19AB 19B0-19C9 19D0-19DA
   19DE-1A1B 1A1E-1A5E 1A60-1A7C 1A7F-1A89 1A90-1A99 1AA0-1AAD 1AB0-1ACE 1B00-1B4C 1B50-1B7E
   1B80-1BF3 1BFC-1C37 1C3B-1C49 1C4D-1C88 1C90-1CBA 1CBD-1CC7 1CD0-1CFA 1D00-1F15 1F18-1F1D
   1F20-1F45 1F48-1F4D 1F50-1F57 1F59 1F5B 1F5D 1F5F-1F7D 1F80-1FB4 1FB6-1FBC 1FBE 1FC2-1FC4
   1FC6-1FCC 1FD0-1FD3 1FD6-1FDB 1FE0-1FEC 1FEF 1FF2-1FF4 1FF6-1FFC 200B 2010-2016 2018-2023 2027
   2030-203D 203F-2046 204A-205E 2060 2064 2070-2071 2074-208E 2090-209C 20A0-20C0 20D0-20F0
   2102-2104 2107-2131 2133-2182 2184-218B 2190-2426 2440-244A 2460-2487 249C-2A73 2A75-2B73
   2B76-2B95 2B97-2CF3 2CF9-2D25 2D27 2D2D 2D30-2D67 2D6F-2D70 2D7F-2D96 2DA0-2DA6 2DA8-2DAE
   2DB0-2DB6 2DB8-2DBE 2DC0-2DC6 2DC8-2DCE 2DD0-2DD6 2DD8-2DDE 2DE0-2E5D 2E80-2E99 2E9B-2EF3
   2F00-2FD5 3001-303F 3041-3096 3099-309A 309D-30FF 3105-312F 3131-3163 3165-318E 3190-31E3
   31F0-321E 3220-33C1 33C3-33C6 33C8-33D7 33D9-A48C A490-A4C6 A4D0-A62B A640-A6F7 A700-A7CA
   A7D0-A7D1 A7D3 A7D5-A7D9 A7F2-A82C A830-A839 A840-A877 A880-A8C5 A8CE-A8D9 A8E0-A953 A95F-A97C
   A980-A9CD A9CF-A9D9 A9DE-A9FE AA00-AA36 AA40-AA4D AA50-AA59 AA5C-AAC2 AADB-AAF6 AB01-AB06
   AB09-AB0E AB11-AB16 AB20-AB26 AB28-AB2E AB30-AB6B AB70-ABED ABF0-ABF9 AC00-D7A3 D7B0-D7C6
   D7CB-D7FB F900-FA6D FA70-FAD9 FB00-FB06 FB13-FB17 FB1D-FB36 FB38-FB3C FB3E FB40-FB41 FB43-FB44
   FB46-FBC2 FBD3-FC5D FC64-FD8F FD92-FDC7 FDCF FDF0-FDF9 FDFC-FE11 FE14-FE15 FE17-FE18 FE20-FE2F
   FE31-FE46 FE4D-FE51 FE54 FE57-FE5E FE60-FE63 FE66 FE69 FE71 FE73 FE77 FE79 FE7B FE7D FE7F-FEFC
   FEFF FF01-FF02 FF04 FF06-FF0E FF10-FF19 FF1B FF1D FF21-FF3A FF3F-FF5B FF5D-FF9F FFA1-FFBE
   FFC2-FFC7 FFCA-FFCF FFD2-FFD7 FFDA-FFDC FFE0-FFE2 FFE4-FFE6 FFE8-FFEE 10000-1000B 1000D-10026
   10028-1003A 1003C-1003D 1003F-1004D 10050-1005D 10080-100FA 10100-10102 10107-10133 10137-1018E
   10190-1019C 101A0 101D0-101FD 10280-1029C 102A0-102D0 102E0-102FB 10300-10323 1032D-1034A
   10350-1037A 10380-1039D 1039F-103C3 103C8-103D5 10400-1049D 104A0-104A9 104B0-104D3 104D8-104FB
   10500-10527 10530-10563 1056F-1057A 1057C-1058A 1058C-10592 10594-10595 10597-105A1 105A3-105B1
   105B3-105B9 105BB-105BC 10600-10736 10740-10755 10760-10767 10780-10785 10787-107B0 107B2-107BA
   10800-10805 10808 1080A-10835 10837-10838 1083C 1083F-10855 10857-1089E 108A7-108AF 108E0-108F2
   108F4-108F5 108FB-1091B 1091F-10939 1093F 10980-109B7 109BC-109CF 109D2-10A03 10A05-10A06
   10A0C-10A13 10A15-10A17 10A19-10A35 10A38-10A3A 10A3F-10A48 10A50-10A58 10A60-10A9F 10AC0-10AE6
   10AEB-10AF6 10B00-10B35 10B39-10B55 10B58-10B72 10B78-10B91 10B99-10B9C 10BA9-10BAF 10C00-10C48
   10C80-10CB2 10CC0-10CF2 10CFA-10D27 10D30-10D39 10E60-10E7E 10E80-10EA9 10EAB-10EAD 10EB0-10EB1
   10EFD-10F27 10F30-10F59 10F70-10F89 10FB0-10FCB 10FE0-10FF6 11000-1104D 11052-11075 1107F-110BC
   110BE-110C2 110D0-110E8 110F0-110F9 11100-11134 11136-11147 11150-11176 11180-111DF 111E1-111F4
   11200-11211 11213-11241 11280-11286 11288 1128A-1128D 1128F-1129D 1129F-112A9 112B0-112EA
   112F0-112F9 11300-11303 11305-1130C 1130F-11310 11313-11328 1132A-11330 11332-11333 11335-11339
   1133B-11344 11347-11348 1134B-1134D 11350 11357 1135D-11363 11366-1136C 11370-11374 11400-1145B
   1145D-11461 11480-114C7 114D0-114D9 11580-115B5 115B8-115DD 11600-11644 11650-11659 11660-1166C
   11680-116B9 116C0-116C9 11700-1171A 1171D-1172B 11730-11746 11800-1183B 118A0-118F2 118FF-11906
   11909 1190C-11913 11915-11916 11918-11935 11937-11938 1193B-11946 11950-11959 119A0-119A7
   119AA-119D7 119DA-119E4 11A00-11A47 11A50-11AA2 11AB0-11AF8 11B00-11B09 11C00-11C08 11C0A-11C36
   11C38-11C45 11C50-11C6C 11C70-11C8F 11C92-11CA7 11CA9-11CB6 11D00-11D06 11D08-11D09 11D0B-11D36
   11D3A 11D3C-11D3D 11D3F-11D47 11D50-11D59 11D60-11D65 11D67-11D68 11D6A-11D8E 11D90-11D91
   11D93-11D98 11DA0-11DA9 11EE0-11EF8 11F00-11F10 11F12-11F3A 11F3E-11F59 11FB0 11FC0-11FF1
   11FFF-12399 12400-1246E 12470-12474 12480-12543 12F90-12FF2 13000-1342F 13440-13455 14400-14646
   16800-16A38 16A40-16A5E 16A60-16A69 16A6E-16ABE 16AC0-16AC9 16AD0-16AED 16AF0-16AF5 16B00-16B45
   16B50-16B59 16B5B-16B61 16B63-16B77 16B7D-16B8F 16E40-16E9A 16F00-16F4A 16F4F-16F87 16F8F-16F9F
   16FE0-16FE4 16FF0-16FF1 17000-187F7 18800-18CD5 18D00-18D08 1AFF0-1AFF3 1AFF5-1AFFB 1AFFD-1AFFE
   1B000-1B122 1B132 1B150-1B152 1B155 1B164-1B167 1B170-1B2FB 1BC00-1BC6A 1BC70-1BC7C 1BC80-1BC88
   1BC90-1BC99 1BC9C-1BCA3 1CF00-1CF2D 1CF30-1CF46 1CF50-1CFC3 1D000-1D0F5 1D100-1D126 1D129-1D172
   1D17B-1D1EA 1D200-1D245 1D2C0-1D2D3 1D2E0-1D2F3 1D300-1D356 1D360-1D378 1D400-1D454 1D456-1D49C
   1D49E-1D49F 1D4A2 1D4A5-1D4A6 1D4A9-1D4AC 1D4AE-1D4B9 1D4BB 1D4BD-1D4C3 1D4C5-1D505 1D507-1D50A
   1D50D-1D514 1D516-1D51C 1D51E-1D539 1D53B-1D53E 1D540-1D544 1D546 1D54A-1D550 1D552-1D6A5
   1D6A8-1D7CB 1D7CE-1DA8B 1DA9B-1DA9F 1DAA1-1DAAF 1DF00-1DF1E 1DF25-1DF2A 1E000-1E006 1E008-1E018
   1E01B-1E021 1E023-1E024 1E026-1E02A 1E030-1E06D 1E08F 1E100-1E12C 1E130-1E13D 1E140-1E149
   1E14E-1E14F 1E290-1E2AE 1E2C0-1E2F9 1E2FF 1E4D0-1E4F9 1E7E0-1E7E6 1E7E8-1E7EB 1E7ED-1E7EE
   1E7F0-1E7FE 1E800-1E8C4 1E8C7-1E8D6 1E900-1E94B 1E950-1E959 1E95E-1E95F 1EC71-1ECB4 1ED01-1ED3D
   1EE00-1EE03 1EE05-1EE1F 1EE21-1EE22 1EE24 1EE27 1EE29-1EE32 1EE34-1EE37 1EE39 1EE3B 1EE42 1EE47
   1EE49 1EE4B 1EE4D-1EE4F 1EE51-1EE52 1EE54 1EE57 1EE59 1EE5B 1EE5D 1EE5F 1EE61-1EE62 1EE64
   1EE67-1EE6A 1EE6C-1EE72 1EE74-1EE77 1EE79-1EE7C 1EE7E 1EE80-1EE89 1EE8B-1EE9B 1EEA1-1EEA3
   1EEA5-1EEA9 1EEAB-1EEBB 1EEF0-1EEF1 1F000-1F02B 1F030-1F093 1F0A0-1F0AE 1F0B1-1F0BF 1F0C1-1F0CF
   1F0D1-1F0F5 1F101-1F1AD 1F1E6-1F202 1F210-1F23B 1F240-1F248 1F250-1F251 1F260-1F265 1F300-1F6D7
   1F6DC-1F6EC 1F6F0-1F6FC 1F700-1F776 1F77B-1F7D9 1F7E0-1F7EB 1F7F0 1F800-1F80B 1F810-1F847
   1F850-1F859 1F860-1F887 1F890-1F8AD 1F8B0-1F8B1 1F900-1FA53 1FA60-1FA6D 1FA70-1FA7C 1FA80-1FA88
   1FA90-1FABD 1FABF-1FAC5 1FACE-1FADB 1FAE0-1FAE8 1FAF0-1FAF8 1FB00-1FB92 1FB94-1FBCA 1FBF0-1FBF9
   20000-2A6DF 2A700-2B739 2B740-2B81D 2B820-2CEA1 2CEB0-2EBE0 2F800-2F867 2F869-2F873 2F875-2F91E
   2F920-2F95E 2F960-2F9BE 2F9C0-2FA1D 30000-3134A 31350-323AF E0100-E01EF"

/-- Those among them that stand for others. -/
def mapped : CodeSet := CodeSet.ofText
  "AA B2-B3 B5 B9-BA BC-BE C0-D6 D8-DE 100 102 104 106 108 10A 10C 10E 110 112 114 116 118 11A 11C
   11E 120 122 124 126 128 12A 12C 12E 130 132-134 136 139 13B 13D 13F-141 143 145 147 149-14A 14C
   14E 150 152 154 156 158 15A 15C 15E 160 162 164 166 168 16A 16C 16E 170 172 174 176 178-179 17B
   17D 17F 181-182 184 186-187 189-18B 18E-191 193-194 196-198 19C-19D 19F-1A0 1A2 1A4 1A6-1A7 1A9
   1AC 1AE-1AF 1B1-1B3 1B5 1B7-1B8 1BC 1C4-1CD 1CF 1D1 1D3 1D5 1D7 1D9 1DB 1DE 1E0 1E2 1E4 1E6 1E8
   1EA 1EC 1EE 1F1-1F4 1F6-1F8 1FA 1FC 1FE 200 202 204 206 208 20A 20C 20E 210 212 214 216 218 21A
   21C 21E 220 222 224 226 228 22A 22C 22E 230 232 23A-23B 23D-23E 241 243-246 248 24A 24C 24E
   2B0-2B8 2E0-2E4 340-341 343-345 370 372 374 376 37E-37F 386-38A 38C 38E-38F 391-3A1 3A3-3AB
   3CF-3D6 3D8 3DA 3DC 3DE 3E0 3E2 3E4 3E6 3E8 3EA 3EC 3EE 3F0-3F2 3F4-3F5 3F7 3F9-3FA 3FD-42F 460
   462 464 466 468 46A 46C 46E 470 472 474 476 478 47A 47C 47E 480 48A 48C 48E 490 492 494 496 498
   49A 49C 49E 4A0 4A2 4A4 4A6 4A8 4AA 4AC 4AE 4B0 4B2 4B4 4B6 4B8 4BA 4BC 4BE 4C1 4C3 4C5 4C7 4C9
   4CB 4CD 4D0 4D2 4D4 4D6 4D8 4DA 4DC 4DE 4E0 4E2 4E4 4E6 4E8 4EA 4EC 4EE 4F0 4F2 4F4 4F6 4F8 4FA
   4FC 4FE 500 502 504 506 508 50A 50C 50E 510 512 514 516 518 51A 51C 51E 520 522 524 526 528 52A
   52C 52E 531-556 587 675-678 958-95F 9DC-9DD 9DF A33 A36 A59-A5B A5E B5C-B5D E33 EB3 EDC-EDD F0C
   F43 F4D F52 F57 F5C F69 F73 F75-F79 F81 F93 F9D FA2 FA7 FAC FB9 10C7 10CD 10FC 13F8-13FD
   1C80-1C88 1C90-1CBA 1CBD-1CBF 1D2C-1D2E 1D30-1D3A 1D3C-1D4D 1D4F-1D6A 1D78 1D9B-1DBF 1E00 1E02
   1E04 1E06 1E08 1E0A 1E0C 1E0E 1E10 1E12 1E14 1E16 1E18 1E1A 1E1C 1E1E 1E20 1E22 1E24 1E26 1E28
   1E2A 1E2C 1E2E 1E30 1E32 1E34 1E36 1E38 1E3A 1E3C 1E3E 1E40 1E42 1E44 1E46 1E48 1E4A 1E4C 1E4E
   1E50 1E52 1E54 1E56 1E58 1E5A 1E5C 1E5E 1E60 1E62 1E64 1E66 1E68 1E6A 1E6C 1E6E 1E70 1E72 1E74
   1E76 1E78 1E7A 1E7C 1E7E 1E80 1E82 1E84 1E86 1E88 1E8A 1E8C 1E8E 1E90 1E92 1E94 1E9A-1E9B 1E9E
   1EA0 1EA2 1EA4 1EA6 1EA8 1EAA 1EAC 1EAE 1EB0 1EB2 1EB4 1EB6 1EB8 1EBA 1EBC 1EBE 1EC0 1EC2 1EC4
   1EC6 1EC8 1ECA 1ECC 1ECE 1ED0 1ED2 1ED4 1ED6 1ED8 1EDA 1EDC 1EDE 1EE0 1EE2 1EE4 1EE6 1EE8 1EEA
   1EEC 1EEE 1EF0 1EF2 1EF4 1EF6 1EF8 1EFA 1EFC 1EFE 1F08-1F0F 1F18-1F1D 1F28-1F2F 1F38-1F3F
   1F48-1F4D 1F59 1F5B 1F5D 1F5F 1F68-1F6F 1F71 1F73 1F75 1F77 1F79 1F7B 1F7D 1F80-1FAF 1FB2-1FB4
   1FB7-1FBC 1FBE 1FC2-1FC4 1FC7-1FCC 1FD3 1FD8-1FDB 1FE3 1FE8-1FEC 1FEF 1FF2-1FF4 1FF7-1FFC 2011
   2033-2034 2036-2037 203C 2057 2070-2071 2074-208E 2090-209C 20A8 2102-2103 2107 2109-2113
   2115-2116 2119-211D 2120-2122 2124 2126 2128 212A-212D 212F-2131 2133-2139 213B-2140 2145-2149
   2150-217F 2189 222C-222D 222F-2230 2329-232A 2460-2487 249C-24EA 2A0C 2A75-2A76 2ADC 2C00-2C2F
   2C60 2C62-2C64 2C67 2C69 2C6B 2C6D-2C70 2C72 2C75 2C7C-2C80 2C82 2C84 2C86 2C88 2C8A 2C8C 2C8E
   2C90 2C92 2C94 2C96 2C98 2C9A 2C9C 2C9E 2CA0 2CA2 2CA4 2CA6 2CA8 2CAA 2CAC 2CAE 2CB0 2CB2 2CB4
   2CB6 2CB8 2CBA 2CBC 2CBE 2CC0 2CC2 2CC4 2CC6 2CC8 2CCA 2CCC 2CCE 2CD0 2CD2 2CD4 2CD6 2CD8 2CDA
   2CDC 2CDE 2CE0 2CE2 2CEB 2CED 2CF2 2D6F 2E9F 2EF3 2F00-2FD5 3002 3036 3038-303A 309F 30FF
   3131-3163 3165-318E 3192-319F 3200-321E 3220-3247 3250-327E 3280-33C1 33C3-33C6 33C8-33D7
   33D9-33FF A640 A642 A644 A646 A648 A64A A64C A64E A650 A652 A654 A656 A658 A65A A65C A65E A660
   A662 A664 A666 A668 A66A A66C A680 A682 A684 A686 A688 A68A A68C A68E A690 A692 A694 A696 A698
   A69A A69C-A69D A722 A724 A726 A728 A72A A72C A72E A732 A734 A736 A738 A73A A73C A73E A740 A742
   A744 A746 A748 A74A A74C A74E A750 A752 A754 A756 A758 A75A A75C A75E A760 A762 A764 A766 A768
   A76A A76C A76E A770 A779 A77B A77D-A77E A780 A782 A784 A786 A78B A78D A790 A792 A796 A798 A79A
   A79C A79E A7A0 A7A2 A7A4 A7A6 A7A8 A7AA-A7AE A7B0-A7B4 A7B6 A7B8 A7BA A7BC A7BE A7C0 A7C2
   A7C4-A7C7 A7C9 A7D0 A7D6 A7D8 A7F2-A7F5 A7F8-A7F9 AB5C-AB5F AB69 AB70-ABBF F900-FA0D FA10 FA12
   FA15-FA1E FA20 FA22 FA25-FA26 FA2A-FA6D FA70-FAD9 FB00-FB06 FB13-FB17 FB1D FB1F-FB36 FB38-FB3C
   FB3E FB40-FB41 FB43-FB44 FB46-FBB1 FBD3-FC5D FC64-FD3D FD50-FD8F FD92-FDC7 FDF0-FDF9 FDFC
   FE10-FE11 FE14-FE15 FE17-FE18 FE31-FE44 FE4D-FE51 FE54 FE57-FE5E FE60-FE63 FE66 FE69 FE71 FE77
   FE79 FE7B FE7D FE7F-FEFC FF01-FF02 FF04 FF06-FF0E FF10-FF19 FF1B FF1D FF21-FF3A FF3F-FF5B
   FF5D-FF9F FFA1-FFBE FFC2-FFC7 FFCA-FFCF FFD2-FFD7 FFDA-FFDC FFE0-FFE2 FFE4-FFE6 FFE8-FFEE
   10400-10427 104B0-104D3 10570-1057A 1057C-1058A 1058C-10592 10594-10595 10781-10785 10787-107B0
   107B2-107BA 10C80-10CB2 118A0-118BF 16E40-16E5F 1D15E-1D164 1D1BB-1D1C0 1D400-1D454 1D456-1D49C
   1D49E-1D49F 1D4A2 1D4A5-1D4A6 1D4A9-1D4AC 1D4AE-1D4B9 1D4BB 1D4BD-1D4C3 1D4C5-1D505 1D507-1D50A
   1D50D-1D514 1D516-1D51C 1D51E-1D539 1D53B-1D53E 1D540-1D544 1D546 1D54A-1D550 1D552-1D6A5
   1D6A8-1D7CB 1D7CE-1D7FF 1E030-1E06D 1E900-1E921 1EE00-1EE03 1EE05-1EE1F 1EE21-1EE22 1EE24 1EE27
   1EE29-1EE32 1EE34-1EE37 1EE39 1EE3B 1EE42 1EE47 1EE49 1EE4B 1EE4D-1EE4F 1EE51-1EE52 1EE54 1EE57
   1EE59 1EE5B 1EE5D 1EE5F 1EE61-1EE62 1EE64 1EE67-1EE6A 1EE6C-1EE72 1EE74-1EE77 1EE79-1EE7C 1EE7E
   1EE80-1EE89 1EE8B-1EE9B 1EEA1-1EEA3 1EEA5-1EEA9 1EEAB-1EEBB 1F101-1F10A 1F110-1F12E 1F130-1F14F
   1F16A-1F16C 1F190 1F200-1F202 1F210-1F23B 1F240-1F248 1F250-1F251 1FBF0-1FBF9 2F800-2F867
   2F869-2F873 2F875-2F91E 2F920-2F95E 2F960-2F9BE 2F9C0-2FA1D"

/-- Those among them that stand for nothing. -/
def ignored : CodeSet := CodeSet.ofText
  "AD 34F 180B-180D 180F 200B 2060 2064 FE00-FE0F FEFF 1BCA0-1BCA3 E0100-E01EF"

/-- What those stand for that stand for ASCII characters, alone or among others. -/
def asciiMap : CodeMap := CodeMap.ofText
  "AA:61 B2:32 B3:33 B9:31 BA:6F BC:31+2044+34 BD:31+2044+32 BE:33+2044+34 130:69+307 132:69+6A
   133:69+6A 13F:6C+B7 140:6C+B7 149:2BC+6E 17F:73 1C4:64+17E 1C5:64+17E 1C6:64+17E 1C7:6C+6A
   1C8:6C+6A 1C9:6C+6A 1CA:6E+6A 1CB:6E+6A 1CC:6E+6A 1F1:64+7A 1F2:64+7A 1F3:64+7A 2B0:68 2B2:6A
   2B3:72 2B7:77 2B8:79 2E1:6C 2E2:73 2E3:78 37E:3B 1D2C:61 1D2E:62 1D30:64 1D31:65 1D33:67 1D34:68
   1D35:69 1D36:6A 1D37:6B 1D38:6C 1D39:6D 1D3A:6E 1D3C:6F 1D3E:70 1D3F:72 1D40:74 1D41:75 1D42:77
   1D43:61 1D47:62 1D48:64 1D49:65 1D4D:67 1D4F:6B 1D50:6D 1D52:6F 1D56:70 1D57:74 1D58:75 1D5B:76
   1D62:69 1D63:72 1D64:75 1D65:76 1D9C:63 1DA0:66 1DBB:7A 1E9A:61+2BE 1E9E:73+73 1FEF:60
   203C:21+21 2070:30 2071:69 2074:34 2075:35 2076:36 2077:37 2078:38 2079:39 207A:2B 207C:3D
   207D:28 207E:29 207F:6E 2080:30 2081:31 2082:32 2083:33 2084:34 2085:35 2086:36 2087:37 2088:38
   2089:39 208A:2B 208C:3D 208D:28 208E:29 2090:61 2091:65 2092:6F 2093:78 2095:68 2096:6B 2097:6C
   2098:6D 2099:6E 209A:70 209B:73 209C:74 20A8:72+73 2102:63 2103:B0+63 2109:B0+66 210A:67 210B:68
   210C:68 210D:68 210E:68 2110:69 2111:69 2112:6C 2113:6C 2115:6E 2116:6E+6F 2119:70 211A:71
   211B:72 211C:72 211D:72 2120:73+6D 2121:74+65+6C 2122:74+6D 2124:7A 2128:7A 212A:6B 212C:62
   212D:63 212F:65 2130:65 2131:66 2133:6D 2134:6F 2139:69 213B:66+61+78 2145:64 2146:64 2147:65
   2148:69 2149:6A 2150:31+2044+37 2151:31+2044+39 2152:31+2044+31+30 2153:31+2044+33
   2154:32+2044+33 2155:31+2044+35 2156:32+2044+35 2157:33+2044+35 2158:34+2044+35 2159:31+2044+36
   215A:35+2044+36 215B:31+2044+38 215C:33+2044+38 215D:35+2044+38 215E:37+2044+38 215F:31+2044
   2160:69 2161:69+69 2162:69+69+69 2163:69+76 2164:76 2165:76+69 2166:76+69+69 2167:76+69+69+69
   2168:69+78 2169:78 216A:78+69 216B:78+69+69 216C:6C 216D:63 216E:64 216F:6D 2170:69 2171:69+69
   2172:69+69+69 2173:69+76 2174:76 2175:76+69 2176:76+69+69 2177:76+69+69+69 2178:69+78 2179:78
   217A:78+69 217B:78+69+69 217C:6C 217D:63 217E:64 217F:6D 2189:30+2044+33 2460:31 2461:32 2462:33
   2463:34 2464:35 2465:36 2466:37 2467:38 2468:39 2469:31+30 246A:31+31 246B:31+32 246C:31+33
   246D:31+34 246E:31+35 246F:31+36 2470:31+37 2471:31+38 2472:31+39 2473:32+30 2474:28+31+29
   2475:28+32+29 2476:28+33+29 2477:28+34+29 2478:28+35+29 2479:28+36+29 247A:28+37+29
   247B:28+38+29 247C:28+39+29 247D:28+31+30+29 247E:28+31+31+29 247F:28+31+32+29 2480:28+31+33+29
   2481:28+31+34+29 2482:28+31+35+29 2483:28+31+36+29 2484:28+31+37+29 2485:28+31+38+29
   2486:28+31+39+29 2487:28+32+30+29 249C:28+61+29 249D:28+62+29 249E:28+63+29 249F:28+64+29
   24A0:28+65+29 24A1:28+66+29 24A2:28+67+29 24A3:28+68+29 24A4:28+69+29 24A5:28+6A+29
   24A6:28+6B+29 24A7:28+6C+29 24A8:28+6D+29 24A9:28+6E+29 24AA:28+6F+29 24AB:28+70+29
   24AC:28+71+29 24AD:28+72+29 24AE:28+73+29 24AF:28+74+29 24B0:28+75+29 24B1:28+76+29
   24B2:28+77+29 24B3:28+78+29 24B4:28+79+29 24B5:28+7A+29 24B6:61 24B7:62 24B8:63 24B9:64 24BA:65
   24BB:66 24BC:67 24BD:68 24BE:69 24BF:6A 24C0:6B 24C1:6C 24C2:6D 24C3:6E 24C4:6F 24C5:70 24C6:71
   24C7:72 24C8:73 24C9:74 24CA:75 24CB:76 24CC:77 24CD:78 24CE:79 24CF:7A 24D0:61 24D1:62 24D2:63
   24D3:64 24D4:65 24D5:66 24D6:67 24D7:68 24D8:69 24D9:6A 24DA:6B 24DB:6C 24DC:6D 24DD:6E 24DE:6F
   24DF:70 24E0:71 24E1:72 24E2:73 24E3:74 24E4:75 24E5:76 24E6:77 24E7:78 24E8:79 24E9:7A 24EA:30
   2A75:3D+3D 2A76:3D+3D+3D 2C7C:6A 2C7D:76 3002:2E 3200:28+1100+29 3201:28+1102+29 3202:28+1103+29
   3203:28+1105+29 3204:28+1106+29 3205:28+1107+29 3206:28+1109+29 3207:28+110B+29 3208:28+110C+29
   3209:28+110E+29 320A:28+110F+29 320B:28+1110+29 320C:28+1111+29 320D:28+1112+29 320E:28+AC00+29
   320F:28+B098+29 3210:28+B2E4+29 3211:28+B77C+29 3212:28+B9C8+29 3213:28+BC14+29 3214:28+C0AC+29
   3215:28+C544+29 3216:28+C790+29 3217:28+CC28+29 3218:28+CE74+29 3219:28+D0C0+29 321A:28+D30C+29
   321B:28+D558+29 321C:28+C8FC+29 321D:28+C624+C804+29 321E:28+C624+D6C4+29 3220:28+4E00+29
   3221:28+4E8C+29 3222:28+4E09+29 3223:28+56DB+29 3224:28+4E94+29 3225:28+516D+29 3226:28+4E03+29
   3227:28+516B+29 3228:28+4E5D+29 3229:28+5341+29 322A:28+6708+29 322B:28+706B+29 322C:28+6C34+29
   322D:28+6728+29 322E:28+91D1+29 322F:28+571F+29 3230:28+65E5+29 3231:28+682A+29 3232:28+6709+29
   3233:28+793E+29 3234:28+540D+29 3235:28+7279+29 3236:28+8CA1+29 3237:28+795D+29 3238:28+52B4+29
   3239:28+4EE3+29 323A:28+547C+29 323B:28+5B66+29 323C:28+76E3+29 323D:28+4F01+29 323E:28+8CC7+29
   323F:28+5354+29 3240:28+796D+29 3241:28+4F11+29 3242:28+81EA+29 3243:28+81F3+29 3250:70+74+65
   3251:32+31 3252:32+32 3253:32+33 3254:32+34 3255:32+35 3256:32+36 3257:32+37 3258:32+38
   3259:32+39 325A:33+30 325B:33+31 325C:33+32 325D:33+33 325E:33+34 325F:33+35 32B1:33+36
   32B2:33+37 32B3:33+38 32B4:33+39 32B5:34+30 32B6:34+31 32B7:34+32 32B8:34+33 32B9:34+34
   32BA:34+35 32BB:34+36 32BC:34+37 32BD:34+38 32BE:34+39 32BF:35+30 32C0:31+6708 32C1:32+6708
   32C2:33+6708 32C3:34+6708 32C4:35+6708 32C5:36+6708 32C6:37+6708 32C7:38+6708 32C8:39+6708
   32C9:31+30+6708 32CA:31+31+6708 32CB:31+32+6708 32CC:68+67 32CD:65+72+67 32CE:65+76
   32CF:6C+74+64 3358:30+70B9 3359:31+70B9 335A:32+70B9 335B:33+70B9 335C:34+70B9 335D:35+70B9
   335E:36+70B9 335F:37+70B9 3360:38+70B9 3361:39+70B9 3362:31+30+70B9 3363:31+31+70B9
   3364:31+32+70B9 3365:31+33+70B9 3366:31+34+70B9 3367:31+35+70B9 3368:31+36+70B9 3369:31+37+70B9
   336A:31+38+70B9 336B:31+39+70B9 336C:32+30+70B9 336D:32+31+70B9 336E:32+32+70B9 336F:32+33+70B9
   3370:32+34+70B9 3371:68+70+61 3372:64+61 3373:61+75 3374:62+61+72 3375:6F+76 3376:70+63
   3377:64+6D 3378:64+6D+32 3379:64+6D+33 337A:69+75 3380:70+61 3381:6E+61 3382:3BC+61 3383:6D+61
   3384:6B+61 3385:6B+62 3386:6D+62 3387:67+62 3388:63+61+6C 3389:6B+63+61+6C 338A:70+66 338B:6E+66
   338C:3BC+66 338D:3BC+67 338E:6D+67 338F:6B+67 3390:68+7A 3391:6B+68+7A 3392:6D+68+7A
   3393:67+68+7A 3394:74+68+7A 3395:3BC+6C 3396:6D+6C 3397:64+6C 3398:6B+6C 3399:66+6D 339A:6E+6D
   339B:3BC+6D 339C:6D+6D 339D:63+6D 339E:6B+6D 339F:6D+6D+32 33A0:63+6D+32 33A1:6D+32
   33A2:6B+6D+32 33A3:6D+6D+33 33A4:63+6D+33 33A5:6D+33 33A6:6B+6D+33 33A7:6D+2215+73
   33A8:6D+2215+73+32 33A9:70+61 33AA:6B+70+61 33AB:6D+70+61 33AC:67+70+61 33AD:72+61+64
   33AE:72+61+64+2215+73 33AF:72+61+64+2215+73+32 33B0:70+73 33B1:6E+73 33B2:3BC+73 33B3:6D+73
   33B4:70+76 33B5:6E+76 33B6:3BC+76 33B7:6D+76 33B8:6B+76 33B9:6D+76 33BA:70+77 33BB:6E+77
   33BC:3BC+77 33BD:6D+77 33BE:6B+77 33BF:6D+77 33C0:6B+3C9 33C1:6D+3C9 33C3:62+71 33C4:63+63
   33C5:63+64 33C6:63+2215+6B+67 33C8:64+62 33C9:67+79 33CA:68+61 33CB:68+70 33CC:69+6E 33CD:6B+6B
   33CE:6B+6D 33CF:6B+74 33D0:6C+6D 33D1:6C+6E 33D2:6C+6F+67 33D3:6C+78 33D4:6D+62 33D5:6D+69+6C
   33D6:6D+6F+6C 33D7:70+68 33D9:70+70+6D 33DA:70+72 33DB:73+72 33DC:73+76 33DD:77+62
   33DE:76+2215+6D 33DF:61+2215+6D 33E0:31+65E5 33E1:32+65E5 33E2:33+65E5 33E3:34+65E5 33E4:35+65E5
   33E5:36+65E5 33E6:37+65E5 33E7:38+65E5 33E8:39+65E5 33E9:31+30+65E5 33EA:31+31+65E5
   33EB:31+32+65E5 33EC:31+33+65E5 33ED:31+34+65E5 33EE:31+35+65E5 33EF:31+36+65E5 33F0:31+37+65E5
   33F1:31+38+65E5 33F2:31+39+65E5 33F3:32+30+65E5 33F4:32+31+65E5 33F5:32+32+65E5 33F6:32+33+65E5
   33F7:32+34+65E5 33F8:32+35+65E5 33F9:32+36+65E5 33FA:32+37+65E5 33FB:32+38+65E5 33FC:32+39+65E5
   33FD:33+30+65E5 33FE:33+31+65E5 33FF:67+61+6C A7F2:63 A7F3:66 A7F4:71 FB00:66+66 FB01:66+69
   FB02:66+6C FB03:66+66+69 FB04:66+66+6C FB05:73+74 FB06:73+74 FB29:2B FE10:2C FE14:3B FE15:21
   FE33:5F FE34:5F FE35:28 FE36:29 FE37:7B FE38:7D FE4D:5F FE4E:5F FE4F:5F FE50:2C FE54:3B FE57:21
   FE59:28 FE5A:29 FE5B:7B FE5C:7D FE60:26 FE61:2A FE62:2B FE63:2D FE66:3D FE69:24 FF01:21 FF02:22
   FF04:24 FF06:26 FF07:27 FF08:28 FF09:29 FF0A:2A FF0B:2B FF0C:2C FF0D:2D FF0E:2E FF10:30 FF11:31
   FF12:32 FF13:33 FF14:34 FF15:35 FF16:36 FF17:37 FF18:38 FF19:39 FF1B:3B FF1D:3D FF21:61 FF22:62
   FF23:63 FF24:64 FF25:65 FF26:66 FF27:67 FF28:68 FF29:69 FF2A:6A FF2B:6B FF2C:6C FF2D:6D FF2E:6E
   FF2F:6F FF30:70 FF31:71 FF32:72 FF33:73 FF34:74 FF35:75 FF36:76 FF37:77 FF38:78 FF39:79 FF3A:7A
   FF3F:5F FF40:60 FF41:61 FF42:62 FF43:63 FF44:64 FF45:65 FF46:66 FF47:67 FF48:68 FF49:69 FF4A:6A
   FF4B:6B FF4C:6C FF4D:6D FF4E:6E FF4F:6F FF50:70 FF51:71 FF52:72 FF53:73 FF54:74 FF55:75 FF56:76
   FF57:77 FF58:78 FF59:79 FF5A:7A FF5B:7B FF5D:7D FF5E:7E FF61:2E 107A5:71 1D400:61 1D401:62
   1D402:63 1D403:64 1D404:65 1D405:66 1D406:67 1D407:68 1D408:69 1D409:6A 1D40A:6B 1D40B:6C
   1D40C:6D 1D40D:6E 1D40E:6F 1D40F:70 1D410:71 1D411:72 1D412:73 1D413:74 1D414:75 1D415:76
   1D416:77 1D417:78 1D418:79 1D419:7A 1D41A:61 1D41B:62 1D41C:63 1D41D:64 1D41E:65 1D41F:66
   1D420:67 1D421:68 1D422:69 1D423:6A 1D424:6B 1D425:6C 1D426:6D 1D427:6E 1D428:6F 1D429:70
   1D42A:71 1D42B:72 1D42C:73 1D42D:74 1D42E:75 1D42F:76 1D430:77 1D431:78 1D432:79 1D433:7A
   1D434:61 1D435:62 1D436:63 1D437:64 1D438:65 1D439:66 1D43A:67 1D43B:68 1D43C:69 1D43D:6A
   1D43E:6B 1D43F:6C 1D440:6D 1D441:6E 1D442:6F 1D443:70 1D444:71 1D445:72 1D446:73 1D447:74
   1D448:75 1D449:76 1D44A:77 1D44B:78 1D44C:79 1D44D:7A 1D44E:61 1D44F:62 1D450:63 1D451:64
   1D452:65 1D453:66 1D454:67 1D456:69 1D457:6A 1D458:6B 1D459:6C 1D45A:6D 1D45B:6E 1D45C:6F
   1D45D:70 1D45E:71 1D45F:72 1D460:73 1D461:74 1D462:75 1D463:76 1D464:77 1D465:78 1D466:79
   1D467:7A 1D468:61 1D469:62 1D46A:63 1D46B:64 1D46C:65 1D46D:66 1D46E:67 1D46F:68 1D470:69
   1D471:6A 1D472:6B 1D473:6C 1D474:6D 1D475:6E 1D476:6F 1D477:70 1D478:71 1D479:72 1D47A:73
   1D47B:74 1D47C:75 1D47D:76 1D47E:77 1D47F:78 1D480:79 1D481:7A 1D482:61 1D483:62 1D484:63
   1D485:64 1D486:65 1D487:66 1D488:67 1D489:68 1D48A:69 1D48B:6A 1D48C:6B 1D48D:6C 1D48E:6D
   1D48F:6E 1D490:6F 1D491:70 1D492:71 1D493:72 1D494:73 1D495:74 1D496:75 1D497:76 1D498:77
   1D499:78 1D49A:79 1D49B:7A 1D49C:61 1D49E:63 1D49F:64 1D4A2:67 1D4A5:6A 1D4A6:6B 1D4A9:6E
   1D4AA:6F 1D4AB:70 1D4AC:71 1D4AE:73 1D4AF:74 1D4B0:75 1D4B1:76 1D4B2:77 1D4B3:78 1D4B4:79
   1D4B5:7A 1D4B6:61 1D4B7:62 1D4B8:63 1D4B9:64 1D4BB:66 1D4BD:68 1D4BE:69 1D4BF:6A 1D4C0:6B
   1D4C1:6C 1D4C2:6D 1D4C3:6E 1D4C5:70 1D4C6:71 1D4C7:72 1D4C8:73 1D4C9:74 1D4CA:75 1D4CB:76
   1D4CC:77 1D4CD:78 1D4CE:79 1D4CF:7A 1D4D0:61 1D4D1:62 1D4D2:63 1D4D3:64 1D4D4:65 1D4D5:66
   1D4D6:67 1D4D7:68 1D4D8:69 1D4D9:6A 1D4DA:6B 1D4DB:6C 1D4DC:6D 1D4DD:6E 1D4DE:6F 1D4DF:70
   1D4E0:71 1D4E1:72 1D4E2:73 1D4E3:74 1D4E4:75 1D4E5:76 1D4E6:77 1D4E7:78 1D4E8:79 1D4E9:7A
   1D4EA:61 1D4EB:62 1D4EC:63 1D4ED:64 1D4EE:65 1D4EF:66 1D4F0:67 1D4F1:68 1D4F2:69 1D4F3:6A
   1D4F4:6B 1D4F5:6C 1D4F6:6D 1D4F7:6E 1D4F8:6F 1D4F9:70 1D4FA:71 1D4FB:72 1D4FC:73 1D4FD:74
   1D4FE:75 1D4FF:76 1D500:77 1D501:78 1D502:79 1D503:7A 1D504:61 1D505:62 1D507:64 1D508:65
   1D509:66 1D50A:67 1D50D:6A 1D50E:6B 1D50F:6C 1D510:6D 1D511:6E 1D512:6F 1D513:70 1D514:71
   1D516:73 1D517:74 1D518:75 1D519:76 1D51A:77 1D51B:78 1D51C:79 1D51E:61 1D51F:62 1D520:63
   1D521:64 1D522:65 1D523:66 1D524:67 1D525:68 1D526:69 1D527:6A 1D528:6B 1D529:6C 1D52A:6D
   1D52B:6E 1D52C:6F 1D52D:70 1D52E:71 1D52F:72 1D530:73 1D531:74 1D532:75 1D533:76 1D534:77
   1D535:78 1D536:79 1D537:7A 1D538:61 1D539:62 1D53B:64 1D53C:65 1D53D:66 1D53E:67 1D540:69
   1D541:6A 1D542:6B 1D543:6C 1D544:6D 1D546:6F 1D54A:73 1D54B:74 1D54C:75 1D54D:76 1D54E:77
   1D54F:78 1D550:79 1D552:61 1D553:62 1D554:63 1D555:64 1D556:65 1D557:66 1D558:67 1D559:68
   1D55A:69 1D55B:6A 1D55C:6B 1D55D:6C 1D55E:6D 1D55F:6E 1D560:6F 1D561:70 1D562:71 1D563:72
   1D564:73 1D565:74 1D566:75 1D567:76 1D568:77 1D569:78 1D56A:79 1D56B:7A 1D56C:61 1D56D:62
   1D56E:63 1D56F:64 1D570:65 1D571:66 1D572:67 1D573:68 1D574:69 1D575:6A 1D576:6B 1D577:6C
   1D578:6D 1D579:6E 1D57A:6F 1D57B:70 1D57C:71 1D57D:72 1D57E:73 1D57F:74 1D580:75 1D581:76
   1D582:77 1D583:78 1D584:79 1D585:7A 1D586:61 1D587:62 1D588:63 1D589:64 1D58A:65 1D58B:66
   1D58C:67 1D58D:68 1D58E:69 1D58F:6A 1D590:6B 1D591:6C 1D592:6D 1D593:6E 1D594:6F 1D595:70
   1D596:71 1D597:72 1D598:73 1D599:74 1D59A:75 1D59B:76 1D59C:77 1D59D:78 1D59E:79 1D59F:7A
   1D5A0:61 1D5A1:62 1D5A2:63 1D5A3:64 1D5A4:65 1D5A5:66 1D5A6:67 1D5A7:68 1D5A8:69 1D5A9:6A
   1D5AA:6B 1D5AB:6C 1D5AC:6D 1D5AD:6E 1D5AE:6F 1D5AF:70 1D5B0:71 1D5B1:72 1D5B2:73 1D5B3:74
   1D5B4:75 1D5B5:76 1D5B6:77 1D5B7:78 1D5B8:79 1D5B9:7A 1D5BA:61 1D5BB:62 1D5BC:63 1D5BD:64
   1D5BE:65 1D5BF:66 1D5C0:67 1D5C1:68 1D5C2:69 1D5C3:6A 1D5C4:6B 1D5C5:6C 1D5C6:6D 1D5C7:6E
   1D5C8:6F 1D5C9:70 1D5CA:71 1D5CB:72 1D5CC:73 1D5CD:74 1D5CE:75 1D5CF:76 1D5D0:77 1D5D1:78
   1D5D2:79 1D5D3:7A 1D5D4:61 1D5D5:62 1D5D6:63 1D5D7:64 1D5D8:65 1D5D9:66 1D5DA:67 1D5DB:68
   1D5DC:69 1D5DD:6A 1D5DE:6B 1D5DF:6C 1D5E0:6D 1D5E1:6E 1D5E2:6F 1D5E3:70 1D5E4:71 1D5E5:72
   1D5E6:73 1D5E7:74 1D5E8:75 1D5E9:76 1D5EA:77 1D5EB:78 1D5EC:79 1D5ED:7A 1D5EE:61 1D5EF:62
   1D5F0:63 1D5F1:64 1D5F2:65 1D5F3:66 1D5F4:67 1D5F5:68 1D5F6:69 1D5F7:6A 1D5F8:6B 1D5F9:6C
   1D5FA:6D 1D5FB:6E 1D5FC:6F 1D5FD:70 1D5FE:71 1D5FF:72 1D600:73 1D601:74 1D602:75 1D603:76
   1D604:77 1D605:78 1D606:79 1D607:7A 1D608:61 1D609:62 1D60A:63 1D60B:64 1D60C:65 1D60D:66
   1D60E:67 1D60F:68 1D610:69 1D611:6A 1D612:6B 1D613:6C 1D614:6D 1D615:6E 1D616:6F 1D617:70
   1D618:71 1D619:72 1D61A:73 1D61B:74 1D61C:75 1D61D:76 1D61E:77 1D61F:78 1D620:79 1D621:7A
   1D622:61 1D623:62 1D624:63 1D625:64 1D626:65 1D627:66 1D628:67 1D629:68 1D62A:69 1D62B:6A
   1D62C:6B 1D62D:6C 1D62E:6D 1D62F:6E 1D630:6F 1D631:70 1D632:71 1D633:72 1D634:73 1D635:74
   1D636:75 1D637:76 1D638:77 1D639:78 1D63A:79 1D63B:7A 1D63C:61 1D63D:62 1D63E:63 1D63F:64
   1D640:65 1D641:66 1D642:67 1D643:68 1D644:69 1D645:6A 1D646:6B 1D647:6C 1D648:6D 1D649:6E
   1D64A:6F 1D64B:70 1D64C:71 1D64D:72 1D64E:73 1D64F:74 1D650:75 1D651:76 1D652:77 1D653:78
   1D654:79 1D655:7A 1D656:61 1D657:62 1D658:63 1D659:64 1D65A:65 1D65B:66 1D65C:67 1D65D:68
   1D65E:69 1D65F:6A 1D660:6B 1D661:6C 1D662:6D 1D663:6E 1D664:6F 1D665:70 1D666:71 1D667:72
   1D668:73 1D669:74 1D66A:75 1D66B:76 1D66C:77 1D66D:78 1D66E:79 1D66F:7A 1D670:61 1D671:62
   1D672:63 1D673:64 1D674:65 1D675:66 1D676:67 1D677:68 1D678:69 1D679:6A 1D67A:6B 1D67B:6C
   1D67C:6D 1D67D:6E 1D67E:6F 1D67F:70 1D680:71 1D681:72 1D682:73 1D683:74 1D684:75 1D685:76
   1D686:77 1D687:78 1D688:79 1D689:7A 1D68A:61 1D68B:62 1D68C:63 1D68D:64 1D68E:65 1D68F:66
   1D690:67 1D691:68 1D692:69 1D693:6A 1D694:6B 1D695:6C 1D696:6D 1D697:6E 1D698:6F 1D699:70
   1D69A:71 1D69B:72 1D69C:73 1D69D:74 1D69E:75 1D69F:76 1D6A0:77 1D6A1:78 1D6A2:79 1D6A3:7A
   1D7CE:30 1D7CF:31 1D7D0:32 1D7D1:33 1D7D2:34 1D7D3:35 1D7D4:36 1D7D5:37 1D7D6:38 1D7D7:39
   1D7D8:30 1D7D9:31 1D7DA:32 1D7DB:33 1D7DC:34 1D7DD:35 1D7DE:36 1D7DF:37 1D7E0:38 1D7E1:39
   1D7E2:30 1D7E3:31 1D7E4:32 1D7E5:33 1D7E6:34 1D7E7:35 1D7E8:36 1D7E9:37 1D7EA:38 1D7EB:39
   1D7EC:30 1D7ED:31 1D7EE:32 1D7EF:33 1D7F0:34 1D7F1:35 1D7F2:36 1D7F3:37 1D7F4:38 1D7F5:39
   1D7F6:30 1D7F7:31 1D7F8:32 1D7F9:33 1D7FA:34 1D7FB:35 1D7FC:36 1D7FD:37 1D7FE:38 1D7FF:39
   1F101:30+2C 1F102:31+2C 1F103:32+2C 1F104:33+2C 1F105:34+2C 1F106:35+2C 1F107:36+2C 1F108:37+2C
   1F109:38+2C 1F10A:39+2C 1F110:28+61+29 1F111:28+62+29 1F112:28+63+29 1F113:28+64+29
   1F114:28+65+29 1F115:28+66+29 1F116:28+67+29 1F117:28+68+29 1F118:28+69+29 1F119:28+6A+29
   1F11A:28+6B+29 1F11B:28+6C+29 1F11C:28+6D+29 1F11D:28+6E+29 1F11E:28+6F+29 1F11F:28+70+29
   1F120:28+71+29 1F121:28+72+29 1F122:28+73+29 1F123:28+74+29 1F124:28+75+29 1F125:28+76+29
   1F126:28+77+29 1F127:28+78+29 1F128:28+79+29 1F129:28+7A+29 1F12A:3014+73+3015 1F12B:63 1F12C:72
   1F12D:63+64 1F12E:77+7A 1F130:61 1F131:62 1F132:63 1F133:64 1F134:65 1F135:66 1F136:67 1F137:68
   1F138:69 1F139:6A 1F13A:6B 1F13B:6C 1F13C:6D 1F13D:6E 1F13E:6F 1F13F:70 1F140:71 1F141:72
   1F142:73 1F143:74 1F144:75 1F145:76 1F146:77 1F147:78 1F148:79 1F149:7A 1F14A:68+76 1F14B:6D+76
   1F14C:73+64 1F14D:73+73 1F14E:70+70+76 1F14F:77+63 1F16A:6D+63 1F16B:6D+64 1F16C:6D+72
   1F190:64+6A 1FBF0:30 1FBF1:31 1FBF2:32 1FBF3:33 1FBF4:34 1FBF5:35 1FBF6:36 1FBF7:37 1FBF8:38
   1FBF9:39"

/-! ## Writing direction -/

/-- Letters written from right to left. -/
def rightToLeft : CodeSet := CodeSet.ofText
  "5BE 5C0 5C3 5C6 5D0-5EA 5EF-5F4 608 60B 60D 61B 61D-64A 66D-66F 671-6D5 6E5-6E6 6EE-6EF 6FA-70D
   710 712-72F 74D-7A5 7B1 7C0-7EA 7F4-7F5 7FA 7FE-815 81A 824 828 830-83E 840-858 85E 860-86A
   870-88E 8A0-8C9 FB1D FB1F-FB28 FB2A-FB36 FB38-FB3C FB3E FB40-FB41 FB43-FB44 FB46-FBC2 FBD3-FC5D
   FC64-FD3D FD50-FD8F FD92-FDC7 FDF0-FDF9 FDFC FE71 FE73 FE77 FE79 FE7B FE7D FE7F-FEFC 10800-10805
   10808 1080A-10835 10837-10838 1083C 1083F-10855 10857-1089E 108A7-108AF 108E0-108F2 108F4-108F5
   108FB-1091B 10920-10939 1093F 10980-109B7 109BC-109CF 109D2-10A00 10A10-10A13 10A15-10A17
   10A19-10A35 10A40-10A48 10A50-10A58 10A60-10A9F 10AC0-10AE4 10AEB-10AF6 10B00-10B35 10B40-10B55
   10B58-10B72 10B78-10B91 10B99-10B9C 10BA9-10BAF 10C00-10C48 10C80-10CB2 10CC0-10CF2 10CFA-10D23
   10E80-10EA9 10EAD 10EB0-10EB1 10F00-10F27 10F30-10F45 10F51-10F59 10F70-10F81 10F86-10F89
   10FB0-10FCB 10FE0-10FF6 1E800-1E8C4 1E8C7-1E8CF 1E900-1E943 1E94B 1E950-1E959 1E95E-1E95F
   1EC71-1ECB4 1ED01-1ED3D 1EE00-1EE03 1EE05-1EE1F 1EE21-1EE22 1EE24 1EE27 1EE29-1EE32 1EE34-1EE37
   1EE39 1EE3B 1EE42 1EE47 1EE49 1EE4B 1EE4D-1EE4F 1EE51-1EE52 1EE54 1EE57 1EE59 1EE5B 1EE5D 1EE5F
   1EE61-1EE62 1EE64 1EE67-1EE6A 1EE6C-1EE72 1EE74-1EE77 1EE79-1EE7C 1EE7E 1EE80-1EE89 1EE8B-1EE9B
   1EEA1-1EEA3 1EEA5-1EEA9 1EEAB-1EEBB"

/-- The digits that stand in right-to-left text only. -/
def arabicNumber : CodeSet := CodeSet.ofText
  "660-669 66B-66C 10D30-10D39 10E60-10E7E"

/-- The digits above ASCII that stand in text of either direction. -/
def europeanNumber : CodeSet := CodeSet.ofText
  "B2-B3 B9 6F0-6F9 2070 2074-2079 2080-2089 FF10-FF19 102E1-102FB 1D7CE-1D7FF 1F101-1F10A
   1FBF0-1FBF9"

/-- Marks, which take the direction of what they follow. -/
def nonspacing : CodeSet := CodeSet.ofText
  "300-36F 483-489 591-5BD 5BF 5C1-5C2 5C4-5C5 5C7 610-61A 64B-65F 670 6D6-6DC 6DF-6E4 6E7-6E8
   6EA-6ED 711 730-74A 7A6-7B0 7EB-7F3 7FD 816-819 81B-823 825-827 829-82D 859-85B 898-89F 8CA-8E1
   8E3-902 93A 93C 941-948 94D 951-957 962-963 981 9BC 9C1-9C4 9CD 9E2-9E3 9FE A01-A02 A3C A41-A42
   A47-A48 A4B-A4D A51 A70-A71 A75 A81-A82 ABC AC1-AC5 AC7-AC8 ACD AE2-AE3 AFA-AFF B01 B3C B3F
   B41-B44 B4D B55-B56 B62-B63 B82 BC0 BCD C00 C04 C3C C3E-C40 C46-C48 C4A-C4D C55-C56 C62-C63 C81
   CBC CCC-CCD CE2-CE3 CF3 D00-D01 D3B-D3C D41-D44 D4D D62-D63 D81 DCA DD2-DD4 DD6 E31 E34-E3A
   E47-E4E EB1 EB4-EBC EC8-ECE F18-F19 F35 F37 F39 F71-F7E F80-F84 F86-F87 F8D-F97 F99-FBC FC6
   102D-1030 1032-1037 1039-103A 103D-103E 1058-1059 105E-1060 1071-1074 1082 1085-1086 108D 109D
   135D-135F 1712-1714 1732-1733 1752-1753 1772-1773 17B7-17BD 17C6 17C9-17D3 17DD 180B-180D 180F
   1885-1886 18A9 1920-1922 1927-1928 1932 1939-193B 1A17-1A18 1A1B 1A56 1A58-1A5E 1A60 1A62
   1A65-1A6C 1A73-1A7C 1A7F 1AB0-1ACE 1B00-1B03 1B34 1B36-1B3A 1B3C 1B42 1B6B-1B73 1B80-1B81
   1BA2-1BA5 1BA8-1BA9 1BAB-1BAD 1BE6 1BE8-1BE9 1BED 1BEF-1BF1 1C2C-1C33 1C36-1C37 1CD0-1CD2
   1CD4-1CE0 1CE2-1CE8 1CED 1CF4 1CF8-1CF9 1DC0-1DFF 20D0-20F0 2CEF-2CF1 2D7F 2DE0-2DFF 302A-302D
   3099-309A A66F-A672 A674-A67D A69E-A69F A6F0-A6F1 A802 A806 A80B A825-A826 A82C A8C4-A8C5
   A8E0-A8F1 A8FF A926-A92D A947-A951 A980-A982 A9B3 A9B6-A9B9 A9BC-A9BD A9E5 AA29-AA2E AA31-AA32
   AA35-AA36 AA43 AA4C AA7C AAB0 AAB2-AAB4 AAB7-AAB8 AABE-AABF AAC1 AAEC-AAED AAF6 ABE5 ABE8 ABED
   FB1E FE00-FE0F FE20-FE2F 101FD 102E0 10376-1037A 10A01-10A03 10A05-10A06 10A0C-10A0F 10A38-10A3A
   10A3F 10AE5-10AE6 10D24-10D27 10EAB-10EAC 10EFD-10EFF 10F46-10F50 10F82-10F85 11001 11038-11046
   11070 11073-11074 1107F-11081 110B3-110B6 110B9-110BA 110C2 11100-11102 11127-1112B 1112D-11134
   11173 11180-11181 111B6-111BE 111C9-111CC 111CF 1122F-11231 11234 11236-11237 1123E 11241 112DF
   112E3-112EA 11300-11301 1133B-1133C 11340 11366-1136C 11370-11374 11438-1143F 11442-11444 11446
   1145E 114B3-114B8 114BA 114BF-114C0 114C2-114C3 115B2-115B5 115BC-115BD 115BF-115C0 115DC-115DD
   11633-1163A 1163D 1163F-11640 116AB 116AD 116B0-116B5 116B7 1171D-1171F 11722-11725 11727-1172B
   1182F-11837 11839-1183A 1193B-1193C 1193E 11943 119D4-119D7 119DA-119DB 119E0 11A01-11A06
   11A09-11A0A 11A33-11A38 11A3B-11A3E 11A47 11A51-11A56 11A59-11A5B 11A8A-11A96 11A98-11A99
   11C30-11C36 11C38-11C3D 11C92-11CA7 11CAA-11CB0 11CB2-11CB3 11CB5-11CB6 11D31-11D36 11D3A
   11D3C-11D3D 11D3F-11D45 11D47 11D90-11D91 11D95 11D97 11EF3-11EF4 11F00-11F01 11F03 11F34-11F3A
   11F3E-11F42 13440 13447-13455 16AF0-16AF4 16B30-16B36 16F4F 16F8F-16F92 16FE4 1BC9D-1BC9E
   1CF00-1CF2D 1CF30-1CF46 1D167-1D169 1D17B-1D182 1D185-1D18B 1D1AA-1D1AD 1D242-1D244 1DA00-1DA36
   1DA3B-1DA6C 1DA75 1DA84 1DA9B-1DA9F 1DAA1-1DAAF 1E000-1E006 1E008-1E018 1E01B-1E021 1E023-1E024
   1E026-1E02A 1E08F 1E130-1E136 1E2AE 1E2EC-1E2EF 1E4EC-1E4EF 1E8D0-1E8D6 1E944-1E94A E0100-E01EF"

/-- Signs and punctuation above ASCII without a direction. -/
def neutral : CodeSet := CodeSet.ofText
  "A1-A7 A9 AB-AE B0-B1 B6-B7 BB-BF D7 F7 2B9-2BA 2C2-2CF 2D2-2D7 2DE-2DF 2E5-2ED 2EF-2FF 374-375
   37E 387 3F6 58A 58D-58F 606-607 609-60A 60C 60E-60F 66A 6DE 6E9 7F6-7F9 9F2-9F3 9FB AF1 BF3-BFA
   C78-C7E E3F F3A-F3D 1390-1399 1400 169B-169C 17DB 17F0-17F9 1800-1805 1807-180A 1940 1944-1945
   19DE-19FF 1FEF 200B 2010-2016 2018-2023 2027 2030-203D 203F-2046 204A-205E 2060 2064 207A-207E
   208A-208E 20A0-20C0 2103-2104 2108-2109 2114 2116-2118 211E-2123 2125 2127 2129 212E 213A-213B
   2140-2144 214A-214D 2150-215F 2189-218B 2190-2335 237B-2394 2396-2426 2440-244A 2460-2487
   24EA-26AB 26AD-27FF 2900-2A73 2A75-2B73 2B76-2B95 2B97-2BFF 2CE5-2CEA 2CF9-2CFF 2E00-2E5D
   2E80-2E99 2E9B-2EF3 2F00-2FD5 3001-3004 3008-3020 3030 3036-3037 303D-303F 30A0 30FB 31C0-31E3
   321D-321E 3250-325F 327C-327E 32B1-32BF 32CC-32CF 3377-337A 33DE-33DF 33FF 4DC0-4DFF A490-A4C6
   A60D-A60F A673 A67E-A67F A700-A721 A788 A828-A82B A838-A839 A874-A877 AB6A-AB6B FB29 FD3E-FD4F
   FDCF FDFD-FDFF FE10-FE11 FE14-FE15 FE17-FE18 FE31-FE46 FE4D-FE51 FE54 FE57-FE5E FE60-FE63 FE66
   FE69 FEFF FF01-FF02 FF04 FF06-FF0E FF1B FF1D FF3F-FF40 FF5B FF5D-FF65 FFE0-FFE2 FFE4-FFE6
   FFE8-FFEE 10101 10140-1018C 10190-1019C 101A0 1091F 10B39-10B3F 11052-11065 11660-1166C
   11FD5-11FF1 16FE2 1BCA0-1BCA3 1D1E9-1D1EA 1D200-1D241 1D245 1D300-1D356 1D6DB 1D715 1D74F 1D789
   1D7C3 1E2FF 1EEF0-1EEF1 1F000-1F02B 1F030-1F093 1F0A0-1F0AE 1F0B1-1F0BF 1F0C1-1F0CF 1F0D1-1F0F5
   1F10B-1F10F 1F12F 1F16A-1F16F 1F1AD 1F260-1F265 1F300-1F6D7 1F6DD-1F6EC 1F6F0-1F6FC 1F700-1F773
   1F780-1F7D8 1F7E0-1F7EB 1F7F0 1F800-1F80B 1F810-1F847 1F850-1F859 1F860-1F887 1F890-1F8AD
   1F8B0-1F8B1 1F900-1FA53 1FA60-1FA6D 1FA70-1FA74 1FA78-1FA7C 1FA80-1FA86 1FA90-1FAAC 1FAB0-1FABA
   1FAC0-1FAC5 1FAD0-1FAD9 1FAE0-1FAE7 1FAF0-1FAF6 1FB00-1FB92 1FB94-1FBCA"

/-! ## Joiners -/

/-- Signs that end a consonant. -/
def virama : CodeSet := CodeSet.ofText
  "94D 9CD A4D ACD B4D BCD C4D CCD D3B-D3C D4D DCA E3A EBA F84 1039-103A 1714-1715 1734 17D2 1A60
   1B44 1BAA-1BAB 1BF2-1BF3 2D7F A806 A82C A8C4 A953 A9C0 AAF6 ABED 10A3F 11046 11070 1107F 110B9
   11133-11134 111C0 11235 112EA 1134D 11442 114C2 115BF 1163F 116B6 1172B 11839 1193D-1193E 119E0
   11A34 11A47 11A99 11C3F 11D44-11D45 11D97"

/-- Letters that join the letter after them. -/
def joinsNext : CodeSet := CodeSet.ofText
  "620 626 628 62A-62E 633-63F 641-647 649-64A 66E-66F 679-687 69A-6BF 6C1-6C2 6CC 6CE 6D0-6D1
   6FA-6FC 6FF 712-714 71A-71D 71F-727 729 72B 72D-72E 74E-758 75C-766 850-853 855 8A0 8A2-8A9 1807
   1820-1877 1887-18A8 18AA A840-A872"

/-- Letters that join the letter before them. -/
def joinsPrevious : CodeSet := CodeSet.ofText
  "620 622-63F 641-64A 66E-66F 671-673 679-6D3 6D5 6EE-6EF 6FA-6FC 6FF 710 712-72F 74D-766 850-855
   8A0 8A2-8AC 1807 1820-1877 1887-18A8 18AA A840-A871"

end ValueSchema.Text.HostName
