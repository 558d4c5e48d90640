/-
One spelling for host names.

Host names do not distinguish upper from lower case, nor a character from another that is
the same but for its looks, and some characters count for nothing.  Before a name is
looked at, each of its characters is replaced by the characters it stands for.  What is
left can stand in a name or not; in ASCII everything can, and who asks for a host rules
more characters out.

The tables are those of the Unicode standard for names processed without transition, short
of the characters that only have to be composed.
-/
import AgentId.Text.CodeMap

namespace AgentId.Idna

open Text (CodeSet CodeMap)

/-- Characters outside ASCII that can stand in a name. -/
def validCharacters : CodeSet := .ofText
  "00A1-0377 037B-037E 0387 0390 03AC-052F 0559-058A 058D-058F 0591-05C7 05D0-05EA 05EF-05F4
   0606-061B 061D-06DC 06DE-070D 0710-074A 074D-07B1 07C0-07FA 07FD-082D 0830-083E 0840-085B
   085E 0860-086A 0870-088F 0897-08E1 08E3-0983 0985-098C 098F-0990 0993-09A8 09AA-09B0 09B2
   09B6-09B9 09BC-09C4 09C7-09C8 09CB-09CE 09D7 09DC-09DD 09DF-09E3 09E6-09FE 0A01-0A03
   0A05-0A0A 0A0F-0A10 0A13-0A28 0A2A-0A30 0A32-0A33 0A35-0A36 0A38-0A39 0A3C 0A3E-0A42
   0A47-0A48 0A4B-0A4D 0A51 0A59-0A5C 0A5E 0A66-0A76 0A81-0A83 0A85-0A8D 0A8F-0A91 0A93-0AA8
   0AAA-0AB0 0AB2-0AB3 0AB5-0AB9 0ABC-0AC5 0AC7-0AC9 0ACB-0ACD 0AD0 0AE0-0AE3 0AE6-0AF1
   0AF9-0AFF 0B01-0B03 0B05-0B0C 0B0F-0B10 0B13-0B28 0B2A-0B30 0B32-0B33 0B35-0B39 0B3C-0B44
   0B47-0B48 0B4B-0B4D 0B55-0B57 0B5C-0B5D 0B5F-0B63 0B66-0B77 0B82-0B83 0B85-0B8A 0B8E-0B90
   0B92-0B95 0B99-0B9A 0B9C 0B9E-0B9F 0BA3-0BA4 0BA8-0BAA 0BAE-0BB9 0BBE-0BC2 0BC6-0BC8
   0BCA-0BCD 0BD0 0BD7 0BE6-0BFA 0C00-0C0C 0C0E-0C10 0C12-0C28 0C2A-0C39 0C3C-0C44 0C46-0C48
   0C4A-0C4D 0C55-0C56 0C58-0C5A 0C5C-0C5D 0C60-0C63 0C66-0C6F 0C77-0C8C 0C8E-0C90 0C92-0CA8
   0CAA-0CB3 0CB5-0CB9 0CBC-0CC4 0CC6-0CC8 0CCA-0CCD 0CD5-0CD6 0CDC-0CDE 0CE0-0CE3 0CE6-0CEF
   0CF1-0CF3 0D00-0D0C 0D0E-0D10 0D12-0D44 0D46-0D48 0D4A-0D4F 0D54-0D63 0D66-0D7F 0D81-0D83
   0D85-0D96 0D9A-0DB1 0DB3-0DBB 0DBD 0DC0-0DC6 0DCA 0DCF-0DD4 0DD6 0DD8-0DDF 0DE6-0DEF
   0DF2-0DF4 0E01-0E3A 0E3F-0E5B 0E81-0E82 0E84 0E86-0E8A 0E8C-0EA3 0EA5 0EA7-0EBD 0EC0-0EC4
   0EC6 0EC8-0ECE 0ED0-0ED9 0EDE-0EDF 0F00-0F47 0F49-0F6C 0F71-0F97 0F99-0FBC 0FBE-0FCC
   0FCE-0FDA 1000-109F 10D0-1248 124A-124D 1250-1256 1258 125A-125D 1260-1288 128A-128D
   1290-12B0 12B2-12B5 12B8-12BE 12C0 12C2-12C5 12C8-12D6 12D8-1310 1312-1315 1318-135A
   135D-137C 1380-1399 13A0-13F5 1400-167F 1681-169C 16A0-16F8 1700-1715 171F-1736 1740-1753
   1760-176C 176E-1770 1772-1773 1780-17DD 17E0-17E9 17F0-17F9 1800-1819 1820-1878 1880-18AA
   18B0-18F5 1900-191E 1920-192B 1930-193B 1940 1944-196D 1970-1974 1980-19AB 19B0-19C9
   19D0-19DA 19DE-1A1B 1A1E-1A5E 1A60-1A7C 1A7F-1A89 1A90-1A99 1AA0-1AAD 1AB0-1ADD 1AE0-1AEB
   1B00-1B4C 1B4E-1BF3 1BFC-1C37 1C3B-1C49 1C4D-1C8A 1CC0-1CC7 1CD0-1CFA 1D00-1F15 1F20-1F45
   1F50-1F57 1F60-1F7D 1FB0-1FB1 1FB6-1FBE 1FC6-1FD3 1FD6-1FD7 1FE0-1FEF 1FF6 200C-200D
   2010-2023 2027 2030-205E 20A0-20C1 20D0-20F0 2104-218B 2190-2429 2440-244A 24EB-2B73
   2B76-2CF3 2CF9-2D25 2D27 2D2D 2D30-2D67 2D70 2D7F-2D96 2DA0-2DA6 2DA8-2DAE 2DB0-2DB6
   2DB8-2DBE 2DC0-2DC6 2DC8-2DCE 2DD0-2DD6 2DD8-2DDE 2DE0-2E5D 2E80-2E99 2E9B-2EF2 3001-303F
   3041-3096 3099-30FE 3105-312F 3190-31E5 31F0-31FF 3248-327F 3400-A48C A490-A4C6 A4D0-A62B
   A641-A6F7 A700-A7DB A7F6-A82C A830-A839 A840-A877 A880-A8C5 A8CE-A8D9 A8E0-A953 A95F-A97C
   A980-A9CD A9CF-A9D9 A9DE-A9FE AA00-AA36 AA40-AA4D AA50-AA59 AA5C-AAC2 AADB-AAF6 AB01-AB06
   AB09-AB0E AB11-AB16 AB20-AB26 AB28-AB2E AB30-AB6B ABC0-ABED ABF0-ABF9 AC00-D7A3 D7B0-D7C6
   D7CB-D7FB F900-FA6D FA70-FAD9 FB1D-FB36 FB38-FB3C FB3E FB40-FB41 FB43-FB44 FB46-FDCF
   FDFD-FDFF FE20-FE2F FE45-FE46 FE73 10000-1000B 1000D-10026 10028-1003A 1003C-1003D
   1003F-1004D 10050-1005D 10080-100FA 10100-10102 10107-10133 10137-1018E 10190-1019C 101A0
   101D0-101FD 10280-1029C 102A0-102D0 102E0-102FB 10300-10323 1032D-1034A 10350-1037A
   10380-1039D 1039F-103C3 103C8-103D5 10428-1049D 104A0-104A9 104D8-104FB 10500-10527
   10530-10563 1056F 10597-105A1 105A3-105B1 105B3-105B9 105BB-105BC 105C0-105F3 10600-10736
   10740-10755 10760-10767 10780 10800-10805 10808 1080A-10835 10837-10838 1083C 1083F-10855
   10857-1089E 108A7-108AF 108E0-108F2 108F4-108F5 108FB-1091B 1091F-10939 1093F-10959
   10980-109B7 109BC-109CF 109D2-10A03 10A05-10A06 10A0C-10A13 10A15-10A17 10A19-10A35
   10A38-10A3A 10A3F-10A48 10A50-10A58 10A60-10A9F 10AC0-10AE6 10AEB-10AF6 10B00-10B35
   10B39-10B55 10B58-10B72 10B78-10B91 10B99-10B9C 10BA9-10BAF 10C00-10C48 10CC0-10CF2
   10CFA-10D27 10D30-10D39 10D40-10D4F 10D69-10D85 10D8E-10D8F 10E60-10E7E 10E80-10EA9
   10EAB-10EAD 10EB0-10EB1 10EC2-10EC7 10ED0-10ED8 10EFA-10F27 10F30-10F59 10F70-10F89
   10FB0-10FCB 10FE0-10FF6 11000-1104D 11052-11075 1107F-110BC 110BE-110C2 110D0-110E8
   110F0-110F9 11100-11134 11136-11147 11150-11176 11180-111DF 111E1-111F4 11200-11211
   11213-11241 11280-11286 11288 1128A-1128D 1128F-1129D 1129F-112A9 112B0-112EA 112F0-112F9
   11300-11303 11305-1130C 1130F-11310 11313-11328 1132A-11330 11332-11333 11335-11339
   1133B-11344 11347-11348 1134B-1134D 11350 11357 1135D-11363 11366-1136C 11370-11374
   11380-11389 1138B 1138E 11390-113B5 113B7-113C0 113C2 113C5 113C7-113CA 113CC-113D5
   113D7-113D8 113E1-113E2 11400-1145B 1145D-11461 11480-114C7 114D0-114D9 11580-115B5
   115B8-115DD 11600-11644 11650-11659 11660-1166C 11680-116B9 116C0-116C9 116D0-116E3
   11700-1171A 1171D-1172B 11730-11746 11800-1183B 118C0-118F2 118FF-11906 11909 1190C-11913
   11915-11916 11918-11935 11937-11938 1193B-11946 11950-11959 119A0-119A7 119AA-119D7
   119DA-119E4 11A00-11A47 11A50-11AA2 11AB0-11AF8 11B00-11B09 11B60-11B67 11BC0-11BE1
   11BF0-11BF9 11C00-11C08 11C0A-11C36 11C38-11C45 11C50-11C6C 11C70-11C8F 11C92-11CA7
   11CA9-11CB6 11D00-11D06 11D08-11D09 11D0B-11D36 11D3A 11D3C-11D3D 11D3F-11D47 11D50-11D59
   11D60-11D65 11D67-11D68 11D6A-11D8E 11D90-11D91 11D93-11D98 11DA0-11DA9 11DB0-11DDB
   11DE0-11DE9 11EE0-11EF8 11F00-11F10 11F12-11F3A 11F3E-11F5A 11FB0 11FC0-11FF1 11FFF-12399
   12400-1246E 12470-12474 12480-12543 12F90-12FF2 13000-1342F 13440-13455 13460-143FA
   14400-14646 16100-16139 16800-16A38 16A40-16A5E 16A60-16A69 16A6E-16ABE 16AC0-16AC9
   16AD0-16AED 16AF0-16AF5 16B00-16B45 16B50-16B59 16B5B-16B61 16B63-16B77 16B7D-16B8F
   16D40-16D79 16E60-16E9A 16EBB-16ED3 16F00-16F4A 16F4F-16F87 16F8F-16F9F 16FE0-16FE4
   16FF0-16FF6 17000-18CD5 18CFF-18D1E 18D80-18DF2 1AFF0-1AFF3 1AFF5-1AFFB 1AFFD-1AFFE
   1B000-1B122 1B132 1B150-1B152 1B155 1B164-1B167 1B170-1B2FB 1BC00-1BC6A 1BC70-1BC7C
   1BC80-1BC88 1BC90-1BC99 1BC9C-1BC9F 1CC00-1CCFC 1CD00-1CEB3 1CEBA-1CED0 1CEE0-1CEF0
   1CF00-1CF2D 1CF30-1CF46 1CF50-1CFC3 1D000-1D0F5 1D100-1D126 1D129-1D1EA 1D200-1D245
   1D2C0-1D2D3 1D2E0-1D2F3 1D300-1D356 1D360-1D378 1D800-1DA8B 1DA9B-1DA9F 1DAA1-1DAAF
   1DF00-1DF1E 1DF25-1DF2A 1E000-1E006 1E008-1E018 1E01B-1E021 1E023-1E024 1E026-1E02A 1E08F
   1E100-1E12C 1E130-1E13D 1E140-1E149 1E14E-1E14F 1E290-1E2AE 1E2C0-1E2F9 1E2FF 1E4D0-1E4F9
   1E5D0-1E5FA 1E5FF 1E6C0-1E6DE 1E6E0-1E6F5 1E6FE-1E6FF 1E7E0-1E7E6 1E7E8-1E7EB 1E7ED-1E7EE
   1E7F0-1E7FE 1E800-1E8C4 1E8C7-1E8D6 1E922-1E94B 1E950-1E959 1E95E-1E95F 1EC71-1ECB4
   1ED01-1ED3D 1EEF0-1EEF1 1F000-1F02B 1F030-1F093 1F0A0-1F0AE 1F0B1-1F0BF 1F0C1-1F0CF
   1F0D1-1F0F5 1F10B-1F1AD 1F1E6-1F1FF 1F260-1F265 1F300-1F6D8 1F6DC-1F6EC 1F6F0-1F6FC
   1F700-1F7D9 1F7E0-1F7EB 1F7F0 1F800-1F80B 1F810-1F847 1F850-1F859 1F860-1F887 1F890-1F8AD
   1F8B0-1F8BB 1F8C0-1F8C1 1F8D0-1F8D8 1F900-1FA57 1FA60-1FA6D 1FA70-1FA7C 1FA80-1FA8A
   1FA8E-1FAC6 1FAC8 1FACD-1FADC 1FADF-1FAEA 1FAEF-1FAF8 1FB00-1FB92 1FB94-1FBFA 20000-2A6DF
   2A700-2B81D 2B820-2CEAD 2CEB0-2EBE0 2EBF0-2EE5D 2F800-2FA1D 30000-3134A 31350-33479"

/-- Characters outside ASCII that stand for others, or for none. -/
def standsFor : CodeMap := .ofText
  "00A0>0020 00A8>0020+0308 00AA>0061 00AD> 00AF>0020+0304 00B2-00B3>0032 00B4>0020+0301
   00B5>03BC 00B8>0020+0327 00B9>0031 00BA>006F 00BC>0031+2044+0034 00BD>0031+2044+0032
   00BE>0033+2044+0034 00C0-00D6>00E0 00D8-00DE>00F8 0100-012E/2>0101 0130>0069+0307
   0132>0069+006A 0133>0069+006A 0134-0136/2>0135 0139-013D/2>013A 013F>006C+00B7
   0140>006C+00B7 0141-0147/2>0142 0149>02BC+006E 014A-0176/2>014B 0178>00FF 0179-017D/2>017A
   017F>0073 0181>0253 0182-0184/2>0183 0186>0254 0187>0188 0189-018A>0256 018B>018C 018E>01DD
   018F>0259 0190>025B 0191>0192 0193>0260 0194>0263 0196>0269 0197>0268 0198>0199 019C>026F
   019D>0272 019F>0275 01A0-01A4/2>01A1 01A6>0280 01A7>01A8 01A9>0283 01AC>01AD 01AE>0288
   01AF>01B0 01B1-01B2>028A 01B3-01B5/2>01B4 01B7>0292 01B8>01B9 01BC>01BD 01C4>0064+017E
   01C5>0064+017E 01C6>0064+017E 01C7>006C+006A 01C8>006C+006A 01C9>006C+006A 01CA>006E+006A
   01CB>006E+006A 01CC>006E+006A 01CD-01DB/2>01CE 01DE-01EE/2>01DF 01F1>0064+007A
   01F2>0064+007A 01F3>0064+007A 01F4>01F5 01F6>0195 01F7>01BF 01F8-021E/2>01F9 0220>019E
   0222-0232/2>0223 023A>2C65 023B>023C 023D>019A 023E>2C66 0241>0242 0243>0180 0244>0289
   0245>028C 0246-024E/2>0247 02B0>0068 02B1>0266 02B2>006A 02B3>0072 02B4>0279 02B5>027B
   02B6>0281 02B7>0077 02B8>0079 02D8>0020+0306 02D9>0020+0307 02DA>0020+030A 02DB>0020+0328
   02DC>0020+0303 02DD>0020+030B 02E0>0263 02E1>006C 02E2>0073 02E3>0078 02E4>0295 0345>03B9
   034F> 0370-0372/2>0371 0376>0377 037A>0020+03B9 037F>03F3 0384>0020+0301
   0385>0020+0308+0301 0386>03AC 0388-038A>03AD 038C>03CC 038E-038F>03CD 0391-03A1>03B1
   03A3-03AB>03C3 03CF>03D7 03D0>03B2 03D1>03B8 03D2>03C5 03D3>03CD 03D4>03CB 03D5>03C6
   03D6>03C0 03D8-03EE/2>03D9 03F0>03BA 03F1>03C1 03F2>03C3 03F4>03B8 03F5>03B5 03F7>03F8
   03F9>03C3 03FA>03FB 03FD-03FF>037B 0400-040F>0450 0410-042F>0430 0460-0480/2>0461
   048A-04BE/2>048B 04C0>04CF 04C1-04CD/2>04C2 04D0-052E/2>04D1 0531-0556>0561 0587>0565+0582
   0675>0627+0674 0676>0648+0674 0677>06C7+0674 0678>064A+0674 0E33>0E4D+0E32 0EB3>0ECD+0EB2
   0EDC>0EAB+0E99 0EDD>0EAB+0EA1 0F0C>0F0B 0F77>0FB2+0F71+0F80 0F79>0FB3+0F71+0F80
   10A0-10C5>2D00 10C7>2D27 10CD>2D2D 10FC>10DC 115F-1160> 13F8-13FD>13F0 17B4-17B5>
   180B-180F> 1C80>0432 1C81>0434 1C82>043E 1C83-1C84>0441 1C85>0442 1C86>044A 1C87>0463
   1C88>A64B 1C89>1C8A 1C90-1CBA>10D0 1CBD-1CBF>10FD 1D2C>0061 1D2D>00E6 1D2E-1D30/2>0062
   1D31>0065 1D32>01DD 1D33-1D3A>0067 1D3C>006F 1D3D>0223 1D3E>0070 1D3F>0072 1D40-1D41>0074
   1D42>0077 1D43>0061 1D44-1D45>0250 1D46>1D02 1D47>0062 1D48-1D49>0064 1D4A>0259
   1D4B-1D4C>025B 1D4D>0067 1D4F>006B 1D50>006D 1D51>014B 1D52>006F 1D53>0254 1D54-1D55>1D16
   1D56>0070 1D57-1D58>0074 1D59>1D1D 1D5A>026F 1D5B>0076 1D5C>1D25 1D5D-1D5F>03B2
   1D60-1D61>03C6 1D62>0069 1D63>0072 1D64-1D65>0075 1D66-1D67>03B2 1D68>03C1 1D69-1D6A>03C6
   1D78>043D 1D9B>0252 1D9C>0063 1D9D>0255 1D9E>00F0 1D9F>025C 1DA0>0066 1DA1>025F 1DA2>0261
   1DA3>0265 1DA4-1DA6>0268 1DA7>1D7B 1DA8>029D 1DA9>026D 1DAA>1D85 1DAB>029F 1DAC>0271
   1DAD>0270 1DAE-1DB1>0272 1DB2>0278 1DB3-1DB4>0282 1DB5>01AB 1DB6-1DB7>0289 1DB8>1D1C
   1DB9-1DBA>028B 1DBB>007A 1DBC-1DBE>0290 1DBF>03B8 1E00-1E94/2>1E01 1E9A>0061+02BE 1E9B>1E61
   1E9E>00DF 1EA0-1EFE/2>1EA1 1F08-1F0F>1F00 1F18-1F1D>1F10 1F28-1F2F>1F20 1F38-1F3F>1F30
   1F48-1F4D>1F40 1F59-1F5F/2>1F51 1F68-1F6F>1F60 1F80-1F87>1F00+03B9 1F88-1F8F>1F00+03B9
   1F90-1F97>1F20+03B9 1F98-1F9F>1F20+03B9 1FA0-1FA7>1F60+03B9 1FA8-1FAF>1F60+03B9
   1FB2>1F70+03B9 1FB3>03B1+03B9 1FB4>03AC+03B9 1FB7>1FB6+03B9 1FB8-1FB9>1FB0 1FBA>1F70
   1FBB>03AC 1FBC>03B1+03B9 1FBD>0020+0313 1FBF>0020+0313 1FC0>0020+0342 1FC1>0020+0308+0342
   1FC2>1F74+03B9 1FC3>03B7+03B9 1FC4>03AE+03B9 1FC7>1FC6+03B9 1FC8>1F72 1FC9>03AD 1FCA>1F74
   1FCB>03AE 1FCC>03B7+03B9 1FCD>0020+0313+0300 1FCE>0020+0313+0301 1FCF>0020+0313+0342
   1FD8-1FD9>1FD0 1FDA>1F76 1FDB>03AF 1FDD>0020+0314+0300 1FDE>0020+0314+0301
   1FDF>0020+0314+0342 1FE8-1FE9>1FE0 1FEA>1F7A 1FEB>03CD 1FEC>1FE5 1FED>0020+0308+0300
   1FEE>0020+0308+0301 1FF2>1F7C+03B9 1FF3>03C9+03B9 1FF4>03CE+03B9 1FF7>1FF6+03B9 1FF8>1F78
   1FF9>03CC 1FFA>1F7C 1FFB>03CE 1FFC>03C9+03B9 1FFD>0020+0301 1FFE>0020+0314 2000>0020
   2001>0020 2002>0020 2003>0020 2004>0020 2005>0020 2006>0020 2007>0020 2008>0020 2009>0020
   200A>0020 200B> 2011>2010 2017>0020+0333 202F>0020 2033>2032+2032 2034>2032+2032+2032
   2036>2035+2035 2037>2035+2035+2035 203C>0021+0021 203E>0020+0305 2047>003F+003F
   2048>003F+0021 2049>0021+003F 2057>2032+2032+2032+2032 205F>0020 2060-2064> 206A-206F>
   2070>0030 2071>0069 2074-2079>0034 207A>002B 207B>2212 207C>003D 207D-207E>0028 207F>006E
   2080-2089>0030 208A>002B 208B>2212 208C>003D 208D-208E>0028 2090>0061 2091>0065 2092>006F
   2093>0078 2094>0259 2095>0068 2096-2099>006B 209A>0070 209B-209C>0073 20A8>0072+0073
   2100>0061+002F+0063 2101>0061+002F+0073 2102>0063 2103>00B0+0063 2105>0063+002F+006F
   2106>0063+002F+0075 2107>025B 2109>00B0+0066 210A-210B>0067 210C>0068 210D>0068 210E>0068
   210F>0127 2110>0069 2111>0069 2112>006C 2113-2115/2>006C 2116>006E+006F 2119-211B>0070
   211C>0072 211D>0072 2120>0073+006D 2121>0074+0065+006C 2122>0074+006D 2124>007A 2126>03C9
   2128>007A 212A>006B 212B>00E5 212C-212D>0062 212F>0065 2130-2131>0065 2132>214E 2133>006D
   2134>006F 2135-2138>05D0 2139>0069 213B>0066+0061+0078 213C>03C0 213D>03B3 213E>03B3
   213F>03C0 2140>2211 2145>0064 2146-2147>0064 2148-2149>0069 2150>0031+2044+0037
   2151>0031+2044+0039 2152>0031+2044+0031+0030 2153-2154>0031+2044+0033
   2155-2158>0031+2044+0035 2159>0031+2044+0036 215A>0035+2044+0036 215B>0031+2044+0038
   215C>0033+2044+0038 215D>0035+2044+0038 215E>0037+2044+0038 215F>0031+2044 2160>0069
   2161>0069+0069 2162>0069+0069+0069 2163>0069+0076 2164>0076 2165>0076+0069
   2166>0076+0069+0069 2167>0076+0069+0069+0069 2168>0069+0078 2169>0078 216A>0078+0069
   216B>0078+0069+0069 216C>006C 216D-216E>0063 216F>006D 2170>0069 2171>0069+0069
   2172>0069+0069+0069 2173>0069+0076 2174>0076 2175>0076+0069 2176>0076+0069+0069
   2177>0076+0069+0069+0069 2178>0069+0078 2179>0078 217A>0078+0069 217B>0078+0069+0069
   217C>006C 217D-217E>0063 217F>006D 2183>2184 2189>0030+2044+0033 222C>222B+222B
   222D>222B+222B+222B 222F>222E+222E 2230>222E+222E+222E 2460-2468>0031 2469>0031+0030
   246A>0031+0031 246B>0031+0032 246C>0031+0033 246D>0031+0034 246E>0031+0035 246F>0031+0036
   2470>0031+0037 2471>0031+0038 2472>0031+0039 2473>0032+0030 2474>0028+0031+0029
   2475>0028+0032+0029 2476>0028+0033+0029 2477>0028+0034+0029 2478>0028+0035+0029
   2479>0028+0036+0029 247A>0028+0037+0029 247B>0028+0038+0029 247C>0028+0039+0029
   247D>0028+0031+0030+0029 247E>0028+0031+0031+0029 247F>0028+0031+0032+0029
   2480>0028+0031+0033+0029 2481>0028+0031+0034+0029 2482>0028+0031+0035+0029
   2483>0028+0031+0036+0029 2484>0028+0031+0037+0029 2485>0028+0031+0038+0029
   2486>0028+0031+0039+0029 2487>0028+0032+0030+0029 249C>0028+0061+0029 249D>0028+0062+0029
   249E>0028+0063+0029 249F>0028+0064+0029 24A0>0028+0065+0029 24A1>0028+0066+0029
   24A2>0028+0067+0029 24A3>0028+0068+0029 24A4>0028+0069+0029 24A5>0028+006A+0029
   24A6>0028+006B+0029 24A7>0028+006C+0029 24A8>0028+006D+0029 24A9>0028+006E+0029
   24AA>0028+006F+0029 24AB>0028+0070+0029 24AC>0028+0071+0029 24AD>0028+0072+0029
   24AE>0028+0073+0029 24AF>0028+0074+0029 24B0>0028+0075+0029 24B1>0028+0076+0029
   24B2>0028+0077+0029 24B3>0028+0078+0029 24B4>0028+0079+0029 24B5>0028+007A+0029
   24B6-24CF>0061 24D0-24E9>0061 24EA>0030 2A0C>222B+222B+222B+222B 2A74>003A+003A+003D
   2A75>003D+003D 2A76>003D+003D+003D 2C00-2C2F>2C30 2C60>2C61 2C62>026B 2C63>1D7D 2C64>027D
   2C67-2C6B/2>2C68 2C6D>0251 2C6E>0271 2C6F>0250 2C70>0252 2C72>2C73 2C75>2C76 2C7C>006A
   2C7D>0076 2C7E-2C7F>023F 2C80-2CE2/2>2C81 2CEB-2CED/2>2CEC 2CF2>2CF3 2D6F>2D61 2E9F>6BCD
   2EF3>9F9F 2F00>4E00 2F01>4E28 2F02>4E36 2F03>4E3F 2F04>4E59 2F05>4E85 2F06>4E8C 2F07>4EA0
   2F08>4EBA 2F09>513F 2F0A>5165 2F0B>516B 2F0C>5182 2F0D>5196 2F0E>51AB 2F0F>51E0 2F10>51F5
   2F11>5200 2F12>529B 2F13>52F9 2F14>5315 2F15>531A 2F16>5338 2F17>5341 2F18>535C 2F19>5369
   2F1A>5382 2F1B>53B6 2F1C>53C8 2F1D>53E3 2F1E>56D7 2F1F>571F 2F20>58EB 2F21>5902 2F22>590A
   2F23>5915 2F24>5927 2F25>5973 2F26>5B50 2F27>5B80 2F28>5BF8 2F29>5C0F 2F2A>5C22 2F2B>5C38
   2F2C>5C6E 2F2D>5C71 2F2E>5DDB 2F2F>5DE5 2F30>5DF1 2F31>5DFE 2F32>5E72 2F33>5E7A 2F34>5E7F
   2F35>5EF4 2F36>5EFE 2F37>5F0B 2F38>5F13 2F39>5F50 2F3A>5F61 2F3B>5F73 2F3C>5FC3 2F3D>6208
   2F3E>6236 2F3F>624B 2F40>652F 2F41>6534 2F42>6587 2F43>6597 2F44>65A4 2F45>65B9 2F46>65E0
   2F47>65E5 2F48>66F0 2F49>6708 2F4A>6728 2F4B>6B20 2F4C>6B62 2F4D>6B79 2F4E>6BB3 2F4F>6BCB
   2F50>6BD4 2F51>6BDB 2F52>6C0F 2F53>6C14 2F54>6C34 2F55>706B 2F56>722A 2F57>7236 2F58>723B
   2F59>723F 2F5A>7247 2F5B>7259 2F5C>725B 2F5D>72AC 2F5E>7384 2F5F>7389 2F60>74DC 2F61>74E6
   2F62>7518 2F63>751F 2F64>7528 2F65>7530 2F66>758B 2F67>7592 2F68>7676 2F69>767D 2F6A>76AE
   2F6B>76BF 2F6C>76EE 2F6D>77DB 2F6E>77E2 2F6F>77F3 2F70>793A 2F71>79B8 2F72>79BE 2F73>7A74
   2F74>7ACB 2F75>7AF9 2F76>7C73 2F77>7CF8 2F78>7F36 2F79>7F51 2F7A>7F8A 2F7B>7FBD 2F7C>8001
   2F7D>800C 2F7E>8012 2F7F>8033 2F80>807F 2F81>8089 2F82>81E3 2F83>81EA 2F84>81F3 2F85>81FC
   2F86>820C 2F87>821B 2F88>821F 2F89>826E 2F8A>8272 2F8B>8278 2F8C>864D 2F8D>866B 2F8E>8840
   2F8F>884C 2F90>8863 2F91>897E 2F92>898B 2F93>89D2 2F94>8A00 2F95>8C37 2F96>8C46 2F97>8C55
   2F98>8C78 2F99>8C9D 2F9A>8D64 2F9B>8D70 2F9C>8DB3 2F9D>8EAB 2F9E>8ECA 2F9F>8F9B 2FA0>8FB0
   2FA1>8FB5 2FA2>9091 2FA3>9149 2FA4>91C6 2FA5>91CC 2FA6>91D1 2FA7>9577 2FA8>9580 2FA9>961C
   2FAA>96B6 2FAB>96B9 2FAC>96E8 2FAD>9751 2FAE>975E 2FAF>9762 2FB0>9769 2FB1>97CB 2FB2>97ED
   2FB3>97F3 2FB4>9801 2FB5>98A8 2FB6>98DB 2FB7>98DF 2FB8>9996 2FB9>9999 2FBA>99AC 2FBB>9AA8
   2FBC>9AD8 2FBD>9ADF 2FBE>9B25 2FBF>9B2F 2FC0>9B32 2FC1>9B3C 2FC2>9B5A 2FC3>9CE5 2FC4>9E75
   2FC5>9E7F 2FC6>9EA5 2FC7>9EBB 2FC8>9EC3 2FC9>9ECD 2FCA>9ED1 2FCB>9EF9 2FCC>9EFD 2FCD>9F0E
   2FCE>9F13 2FCF>9F20 2FD0>9F3B 2FD1>9F4A 2FD2>9F52 2FD3>9F8D 2FD4>9F9C 2FD5>9FA0 3000>0020
   3002>002E 3036>3012 3038>5341 3039-303A>5344 309B>0020+3099 309C>0020+309A 309F>3088+308A
   30FF>30B3+30C8 3131-3132>1100 3133>11AA 3134>1102 3135-3136>11AC 3137-3139>1103
   313A-313F>11B0 3140>111A 3141-3143>1106 3144>1121 3145-314E>1109 314F-3163>1161 3164>
   3165-3166>1114 3167-3168>11C7 3169>11CC 316A>11CE 316B>11D3 316C>11D7 316D>11D9 316E>111C
   316F>11DD 3170>11DF 3171-3172>111D 3173>1120 3174-3175>1122 3176>1127 3177>1129
   3178-317C>112B 317D>1132 317E>1136 317F>1140 3180>1147 3181>114C 3182-3183>11F1
   3184-3186>1157 3187-3188>1184 3189>1188 318A-318B>1191 318C>1194 318D>119E 318E>11A1
   3192>4E00 3193>4E8C 3194>4E09 3195>56DB 3196>4E0A 3197>4E2D 3198>4E0B 3199>7532 319A>4E59
   319B>4E19 319C>4E01 319D>5929 319E>5730 319F>4EBA 3200>0028+1100+0029 3201>0028+1102+0029
   3202>0028+1103+0029 3203>0028+1105+0029 3204>0028+1106+0029 3205>0028+1107+0029
   3206>0028+1109+0029 3207>0028+110B+0029 3208>0028+110C+0029 3209>0028+110E+0029
   320A>0028+110F+0029 320B>0028+1110+0029 320C>0028+1111+0029 320D>0028+1112+0029
   320E>0028+AC00+0029 320F>0028+B098+0029 3210>0028+B2E4+0029 3211>0028+B77C+0029
   3212>0028+B9C8+0029 3213>0028+BC14+0029 3214>0028+C0AC+0029 3215>0028+C544+0029
   3216>0028+C790+0029 3217>0028+CC28+0029 3218>0028+CE74+0029 3219>0028+D0C0+0029
   321A>0028+D30C+0029 321B>0028+D558+0029 321C>0028+C8FC+0029 321D>0028+C624+C804+0029
   321E>0028+C624+D6C4+0029 3220>0028+4E00+0029 3221>0028+4E8C+0029 3222>0028+4E09+0029
   3223>0028+56DB+0029 3224>0028+4E94+0029 3225>0028+516D+0029 3226>0028+4E03+0029
   3227>0028+516B+0029 3228>0028+4E5D+0029 3229>0028+5341+0029 322A>0028+6708+0029
   322B>0028+706B+0029 322C>0028+6C34+0029 322D>0028+6728+0029 322E>0028+91D1+0029
   322F>0028+571F+0029 3230>0028+65E5+0029 3231>0028+682A+0029 3232>0028+6709+0029
   3233>0028+793E+0029 3234>0028+540D+0029 3235>0028+7279+0029 3236>0028+8CA1+0029
   3237>0028+795D+0029 3238>0028+52B4+0029 3239>0028+4EE3+0029 323A>0028+547C+0029
   323B>0028+5B66+0029 323C>0028+76E3+0029 323D>0028+4F01+0029 323E>0028+8CC7+0029
   323F>0028+5354+0029 3240>0028+796D+0029 3241>0028+4F11+0029 3242>0028+81EA+0029
   3243>0028+81F3+0029 3244>554F 3245>5E7C 3246>6587 3247>7B8F 3250>0070+0074+0065
   3251>0032+0031 3252>0032+0032 3253>0032+0033 3254>0032+0034 3255>0032+0035 3256>0032+0036
   3257>0032+0037 3258>0032+0038 3259>0032+0039 325A>0033+0030 325B>0033+0031 325C>0033+0032
   325D>0033+0033 325E>0033+0034 325F>0033+0035 3260>1100 3261-3262>1102 3263-3265>1105
   3266>1109 3267-3268>110B 3269-326D>110E 326E>AC00 326F>B098 3270>B2E4 3271>B77C 3272>B9C8
   3273>BC14 3274>C0AC 3275>C544 3276>C790 3277>CC28 3278>CE74 3279>D0C0 327A>D30C 327B>D558
   327C>CC38+ACE0 327D>C8FC+C758 327E>C6B0 3280>4E00 3281>4E8C 3282>4E09 3283>56DB 3284>4E94
   3285>516D 3286>4E03 3287>516B 3288>4E5D 3289>5341 328A>6708 328B>706B 328C>6C34 328D>6728
   328E>91D1 328F>571F 3290>65E5 3291>682A 3292>6709 3293>793E 3294>540D 3295>7279 3296>8CA1
   3297>795D 3298>52B4 3299>79D8 329A>7537 329B>5973 329C>9069 329D>512A 329E>5370 329F>6CE8
   32A0>9805 32A1>4F11 32A2>5199 32A3>6B63 32A4>4E0A 32A5>4E2D 32A6>4E0B 32A7>5DE6 32A8>53F3
   32A9>533B 32AA>5B97 32AB>5B66 32AC>76E3 32AD>4F01 32AE>8CC7 32AF>5354 32B0>591C
   32B1>0033+0036 32B2>0033+0037 32B3>0033+0038 32B4>0033+0039 32B5>0034+0030 32B6>0034+0031
   32B7>0034+0032 32B8>0034+0033 32B9>0034+0034 32BA>0034+0035 32BB>0034+0036 32BC>0034+0037
   32BD>0034+0038 32BE>0034+0039 32BF>0035+0030 32C0-32C8>0031+6708 32C9>0031+0030+6708
   32CA>0031+0031+6708 32CB>0031+0032+6708 32CC>0068+0067 32CD>0065+0072+0067 32CE>0065+0076
   32CF>006C+0074+0064 32D0>30A2 32D1>30A4 32D2>30A6 32D3>30A8 32D4-32D5>30AA 32D6>30AD
   32D7>30AF 32D8>30B1 32D9>30B3 32DA>30B5 32DB>30B7 32DC>30B9 32DD>30BB 32DE>30BD 32DF>30BF
   32E0>30C1 32E1>30C4 32E2>30C6 32E3>30C8 32E4-32E9>30CA 32EA>30D2 32EB>30D5 32EC>30D8
   32ED>30DB 32EE-32F2>30DE 32F3>30E4 32F4>30E6 32F5-32FA>30E8 32FB-32FE>30EF 32FF>4EE4+548C
   3300>30A2+30D1+30FC+30C8 3301>30A2+30EB+30D5+30A1 3302>30A2+30F3+30DA+30A2
   3303>30A2+30FC+30EB 3304>30A4+30CB+30F3+30B0 3305>30A4+30F3+30C1 3306>30A6+30A9+30F3
   3307>30A8+30B9+30AF+30FC+30C9 3308>30A8+30FC+30AB+30FC 3309>30AA+30F3+30B9
   330A>30AA+30FC+30E0 330B>30AB+30A4+30EA 330C>30AB+30E9+30C3+30C8 330D>30AB+30ED+30EA+30FC
   330E>30AC+30ED+30F3 330F>30AC+30F3+30DE 3310>30AE+30AC 3311>30AE+30CB+30FC
   3312>30AD+30E5+30EA+30FC 3313>30AE+30EB+30C0+30FC 3314>30AD+30ED
   3315>30AD+30ED+30B0+30E9+30E0 3316>30AD+30ED+30E1+30FC+30C8+30EB
   3317>30AD+30ED+30EF+30C3+30C8 3318>30B0+30E9+30E0 3319>30B0+30E9+30E0+30C8+30F3
   331A>30AF+30EB+30BC+30A4+30ED 331B>30AF+30ED+30FC+30CD 331C>30B1+30FC+30B9
   331D>30B3+30EB+30CA 331E>30B3+30FC+30DD 331F>30B5+30A4+30AF+30EB
   3320>30B5+30F3+30C1+30FC+30E0 3321>30B7+30EA+30F3+30B0 3322>30BB+30F3+30C1
   3323>30BB+30F3+30C8 3324>30C0+30FC+30B9 3325>30C7+30B7 3326>30C9+30EB 3327>30C8+30F3
   3328>30CA+30CE 3329>30CE+30C3+30C8 332A>30CF+30A4+30C4 332B>30D1+30FC+30BB+30F3+30C8
   332C>30D1+30FC+30C4 332D>30D0+30FC+30EC+30EB 332E>30D4+30A2+30B9+30C8+30EB
   332F>30D4+30AF+30EB 3330>30D4+30B3 3331>30D3+30EB 3332>30D5+30A1+30E9+30C3+30C9
   3333>30D5+30A3+30FC+30C8 3334>30D6+30C3+30B7+30A7+30EB 3335>30D5+30E9+30F3
   3336>30D8+30AF+30BF+30FC+30EB 3337>30DA+30BD 3338>30DA+30CB+30D2 3339>30D8+30EB+30C4
   333A>30DA+30F3+30B9 333B>30DA+30FC+30B8 333C>30D9+30FC+30BF 333D>30DD+30A4+30F3+30C8
   333E>30DC+30EB+30C8 333F>30DB+30F3 3340>30DD+30F3+30C9 3341>30DB+30FC+30EB
   3342>30DB+30FC+30F3 3343>30DE+30A4+30AF+30ED 3344>30DE+30A4+30EB 3345>30DE+30C3+30CF
   3346>30DE+30EB+30AF 3347>30DE+30F3+30B7+30E7+30F3 3348>30DF+30AF+30ED+30F3 3349>30DF+30EA
   334A>30DF+30EA+30D0+30FC+30EB 334B>30E1+30AC 334C>30E1+30AC+30C8+30F3
   334D>30E1+30FC+30C8+30EB 334E>30E4+30FC+30C9 334F>30E4+30FC+30EB 3350>30E6+30A2+30F3
   3351>30EA+30C3+30C8+30EB 3352>30EA+30E9 3353>30EB+30D4+30FC 3354>30EB+30FC+30D6+30EB
   3355>30EC+30E0 3356>30EC+30F3+30C8+30B2+30F3 3357>30EF+30C3+30C8 3358-3361>0030+70B9
   3362>0031+0030+70B9 3363>0031+0031+70B9 3364>0031+0032+70B9 3365>0031+0033+70B9
   3366>0031+0034+70B9 3367>0031+0035+70B9 3368>0031+0036+70B9 3369>0031+0037+70B9
   336A>0031+0038+70B9 336B>0031+0039+70B9 336C>0032+0030+70B9 336D>0032+0031+70B9
   336E>0032+0032+70B9 336F>0032+0033+70B9 3370>0032+0034+70B9 3371>0068+0070+0061
   3372>0064+0061 3373>0061+0075 3374>0062+0061+0072 3375>006F+0076 3376>0070+0063
   3377>0064+006D 3378>0064+006D+0032 3379>0064+006D+0033 337A>0069+0075 337B>5E73+6210
   337C>662D+548C 337D>5927+6B63 337E>660E+6CBB 337F>682A+5F0F+4F1A+793E 3380>0070+0061
   3381>006E+0061 3382>03BC+0061 3383>006D+0061 3384>006B+0061 3385>006B+0062 3386>006D+0062
   3387>0067+0062 3388>0063+0061+006C 3389>006B+0063+0061+006C 338A>0070+0066 338B>006E+0066
   338C>03BC+0066 338D>03BC+0067 338E>006D+0067 338F>006B+0067 3390>0068+007A
   3391>006B+0068+007A 3392>006D+0068+007A 3393>0067+0068+007A 3394>0074+0068+007A
   3395>03BC+006C 3396>006D+006C 3397>0064+006C 3398>006B+006C 3399>0066+006D 339A>006E+006D
   339B>03BC+006D 339C>006D+006D 339D>0063+006D 339E>006B+006D 339F>006D+006D+0032
   33A0>0063+006D+0032 33A1>006D+0032 33A2>006B+006D+0032 33A3>006D+006D+0033
   33A4>0063+006D+0033 33A5>006D+0033 33A6>006B+006D+0033 33A7>006D+2215+0073
   33A8>006D+2215+0073+0032 33A9>0070+0061 33AA>006B+0070+0061 33AB>006D+0070+0061
   33AC>0067+0070+0061 33AD>0072+0061+0064 33AE>0072+0061+0064+2215+0073
   33AF>0072+0061+0064+2215+0073+0032 33B0>0070+0073 33B1>006E+0073 33B2>03BC+0073
   33B3>006D+0073 33B4>0070+0076 33B5>006E+0076 33B6>03BC+0076 33B7>006D+0076 33B8>006B+0076
   33B9>006D+0076 33BA>0070+0077 33BB>006E+0077 33BC>03BC+0077 33BD>006D+0077 33BE>006B+0077
   33BF>006D+0077 33C0>006B+03C9 33C1>006D+03C9 33C3>0062+0071 33C4>0063+0063 33C5>0063+0064
   33C6>0063+2215+006B+0067 33C8>0064+0062 33C9>0067+0079 33CA>0068+0061 33CB>0068+0070
   33CC>0069+006E 33CD>006B+006B 33CE>006B+006D 33CF>006B+0074 33D0>006C+006D 33D1>006C+006E
   33D2>006C+006F+0067 33D3>006C+0078 33D4>006D+0062 33D5>006D+0069+006C 33D6>006D+006F+006C
   33D7>0070+0068 33D9>0070+0070+006D 33DA>0070+0072 33DB>0073+0072 33DC>0073+0076
   33DD>0077+0062 33DE>0076+2215+006D 33DF>0061+2215+006D 33E0-33E8>0031+65E5
   33E9>0031+0030+65E5 33EA>0031+0031+65E5 33EB>0031+0032+65E5 33EC>0031+0033+65E5
   33ED>0031+0034+65E5 33EE>0031+0035+65E5 33EF>0031+0036+65E5 33F0>0031+0037+65E5
   33F1>0031+0038+65E5 33F2>0031+0039+65E5 33F3>0032+0030+65E5 33F4>0032+0031+65E5
   33F5>0032+0032+65E5 33F6>0032+0033+65E5 33F7>0032+0034+65E5 33F8>0032+0035+65E5
   33F9>0032+0036+65E5 33FA>0032+0037+65E5 33FB>0032+0038+65E5 33FC>0032+0039+65E5
   33FD>0033+0030+65E5 33FE>0033+0031+65E5 33FF>0067+0061+006C A640-A66C/2>A641
   A680-A69A/2>A681 A69C>044A A69D>044C A722-A72E/2>A723 A732-A76E/2>A733 A770>A76F
   A779-A77B/2>A77A A77D>1D79 A77E-A786/2>A77F A78B>A78C A78D>0265 A790-A792/2>A791
   A796-A7A8/2>A797 A7AA>0266 A7AB>025C A7AC>0261 A7AD>026C A7AE>026A A7B0>029E A7B1>0287
   A7B2>029D A7B3>AB53 A7B4-A7C2/2>A7B5 A7C4>A794 A7C5>0282 A7C6>1D8E A7C7-A7C9/2>A7C8
   A7CB>0264 A7CC-A7DA/2>A7CD A7DC>019B A7F1>0073 A7F2>0063 A7F3>0066 A7F4>0071 A7F5>A7F6
   A7F8>0127 A7F9>0153 AB5C>A727 AB5D>AB37 AB5E>026B AB5F>AB52 AB69>028D AB70-ABBF>13A0
   FB00>0066+0066 FB01>0066+0069 FB02>0066+006C FB03>0066+0066+0069 FB04>0066+0066+006C
   FB05>0073+0074 FB06>0073+0074 FB13>0574+0576 FB14>0574+0565 FB15>0574+056B FB16>057E+0576
   FB17>0574+056D FB20>05E2 FB21>05D0 FB22-FB23>05D3 FB24-FB26>05DB FB27>05E8 FB28>05EA
   FB29>002B FB4F>05D0+05DC FB50>0671 FB51>0671 FB52>067B FB53>067B FB54>067B FB55>067B
   FB56>067E FB57>067E FB58>067E FB59>067E FB5A>0680 FB5B>0680 FB5C>0680 FB5D>0680 FB5E>067A
   FB5F>067A FB60>067A FB61>067A FB62>067F FB63>067F FB64>067F FB65>067F FB66>0679 FB67>0679
   FB68>0679 FB69>0679 FB6A>06A4 FB6B>06A4 FB6C>06A4 FB6D>06A4 FB6E>06A6 FB6F>06A6 FB70>06A6
   FB71>06A6 FB72>0684 FB73>0684 FB74>0684 FB75>0684 FB76>0683 FB77>0683 FB78>0683 FB79>0683
   FB7A>0686 FB7B>0686 FB7C>0686 FB7D-FB7E>0686 FB7F>0687 FB80>0687 FB81>0687 FB82>068D
   FB83>068D FB84>068C FB85>068C FB86>068E FB87>068E FB88>0688 FB89>0688 FB8A>0698 FB8B>0698
   FB8C>0691 FB8D>0691 FB8E>06A9 FB8F>06A9 FB90>06A9 FB91>06A9 FB92>06AF FB93>06AF FB94>06AF
   FB95>06AF FB96>06B3 FB97>06B3 FB98>06B3 FB99>06B3 FB9A>06B1 FB9B>06B1 FB9C>06B1 FB9D>06B1
   FB9E>06BA FB9F-FBA0>06BA FBA1>06BB FBA2>06BB FBA3>06BB FBA4>06C0 FBA5-FBA6>06C0 FBA7>06C1
   FBA8>06C1 FBA9>06C1 FBAA>06BE FBAB>06BE FBAC>06BE FBAD>06BE FBAE>06D2 FBAF-FBB0>06D2
   FBB1>06D3 FBD3>06AD FBD4>06AD FBD5>06AD FBD6>06AD FBD7>06C7 FBD8>06C7 FBD9>06C6 FBDA>06C6
   FBDB>06C8 FBDC>06C8 FBDD>06C7+0674 FBDE>06CB FBDF>06CB FBE0>06C5 FBE1>06C5 FBE2>06C9
   FBE3>06C9 FBE4>06D0 FBE5>06D0 FBE6>06D0 FBE7>06D0 FBE8>0649 FBE9>0649 FBEA>0626+0627
   FBEB>0626+0627 FBEC>0626+06D5 FBED>0626+06D5 FBEE>0626+0648 FBEF>0626+0648 FBF0>0626+06C7
   FBF1>0626+06C7 FBF2>0626+06C6 FBF3>0626+06C6 FBF4>0626+06C8 FBF5>0626+06C8 FBF6>0626+06D0
   FBF7>0626+06D0 FBF8>0626+06D0 FBF9>0626+0649 FBFA>0626+0649 FBFB>0626+0649 FBFC>06CC
   FBFD>06CC FBFE>06CC FBFF>06CC FC00>0626+062C FC01>0626+062D FC02>0626+0645 FC03>0626+0649
   FC04>0626+064A FC05>0628+062C FC06>0628+062D FC07>0628+062E FC08>0628+0645 FC09>0628+0649
   FC0A>0628+064A FC0B>062A+062C FC0C>062A+062D FC0D>062A+062E FC0E>062A+0645 FC0F>062A+0649
   FC10>062A+064A FC11>062B+062C FC12>062B+0645 FC13>062B+0649 FC14>062B+064A FC15>062C+062D
   FC16>062C+0645 FC17>062D+062C FC18>062D+0645 FC19>062E+062C FC1A>062E+062D FC1B>062E+0645
   FC1C>0633+062C FC1D>0633+062D FC1E>0633+062E FC1F>0633+0645 FC20>0635+062D FC21>0635+0645
   FC22>0636+062C FC23>0636+062D FC24>0636+062E FC25>0636+0645 FC26>0637+062D
   FC27-FC28>0637+0645 FC29>0639+062C FC2A>0639+0645 FC2B>063A+062C FC2C>063A+0645
   FC2D>0641+062C FC2E>0641+062D FC2F>0641+062E FC30>0641+0645 FC31>0641+0649 FC32>0641+064A
   FC33>0642+062D FC34>0642+0645 FC35>0642+0649 FC36>0642+064A FC37>0643+0627 FC38>0643+062C
   FC39>0643+062D FC3A>0643+062E FC3B>0643+0644 FC3C>0643+0645 FC3D>0643+0649 FC3E>0643+064A
   FC3F>0644+062C FC40>0644+062D FC41>0644+062E FC42>0644+0645 FC43>0644+0649 FC44>0644+064A
   FC45>0645+062C FC46>0645+062D FC47>0645+062E FC48>0645+0645 FC49>0645+0649 FC4A>0645+064A
   FC4B>0646+062C FC4C>0646+062D FC4D>0646+062E FC4E>0646+0645 FC4F>0646+0649 FC50>0646+064A
   FC51>0647+062C FC52>0647+0645 FC53>0647+0649 FC54>0647+064A FC55>064A+062C FC56>064A+062D
   FC57>064A+062E FC58>064A+0645 FC59>064A+0649 FC5A>064A+064A FC5B-FC5C>0630+0670
   FC5D>0649+0670 FC5E>0020+064C+0651 FC5F>0020+064D+0651 FC60>0020+064E+0651
   FC61>0020+064F+0651 FC62>0020+0650+0651 FC63>0020+0651+0670 FC64>0626+0631 FC65>0626+0632
   FC66>0626+0645 FC67>0626+0646 FC68>0626+0649 FC69>0626+064A FC6A>0628+0631 FC6B>0628+0632
   FC6C>0628+0645 FC6D>0628+0646 FC6E>0628+0649 FC6F>0628+064A FC70>062A+0631 FC71>062A+0632
   FC72>062A+0645 FC73>062A+0646 FC74>062A+0649 FC75>062A+064A FC76>062B+0631 FC77>062B+0632
   FC78>062B+0645 FC79>062B+0646 FC7A>062B+0649 FC7B>062B+064A FC7C>0641+0649 FC7D>0641+064A
   FC7E>0642+0649 FC7F>0642+064A FC80>0643+0627 FC81>0643+0644 FC82>0643+0645 FC83>0643+0649
   FC84>0643+064A FC85>0644+0645 FC86>0644+0649 FC87>0644+064A FC88>0645+0627 FC89>0645+0645
   FC8A>0646+0631 FC8B>0646+0632 FC8C>0646+0645 FC8D>0646+0646 FC8E>0646+0649 FC8F>0646+064A
   FC90>0649+0670 FC91>064A+0631 FC92>064A+0632 FC93>064A+0645 FC94>064A+0646 FC95>064A+0649
   FC96>064A+064A FC97>0626+062C FC98>0626+062D FC99>0626+062E FC9A>0626+0645 FC9B>0626+0647
   FC9C>0628+062C FC9D>0628+062D FC9E>0628+062E FC9F>0628+0645 FCA0>0628+0647 FCA1>062A+062C
   FCA2>062A+062D FCA3>062A+062E FCA4>062A+0645 FCA5>062A+0647 FCA6>062B+0645 FCA7>062C+062D
   FCA8>062C+0645 FCA9>062D+062C FCAA>062D+0645 FCAB>062E+062C FCAC>062E+0645 FCAD>0633+062C
   FCAE>0633+062D FCAF>0633+062E FCB0>0633+0645 FCB1>0635+062D FCB2>0635+062E FCB3>0635+0645
   FCB4>0636+062C FCB5>0636+062D FCB6>0636+062E FCB7>0636+0645 FCB8>0637+062D FCB9>0638+0645
   FCBA>0639+062C FCBB>0639+0645 FCBC>063A+062C FCBD>063A+0645 FCBE>0641+062C FCBF>0641+062D
   FCC0>0641+062E FCC1>0641+0645 FCC2>0642+062D FCC3>0642+0645 FCC4>0643+062C FCC5>0643+062D
   FCC6>0643+062E FCC7>0643+0644 FCC8>0643+0645 FCC9>0644+062C FCCA>0644+062D FCCB>0644+062E
   FCCC>0644+0645 FCCD>0644+0647 FCCE>0645+062C FCCF>0645+062D FCD0>0645+062E FCD1>0645+0645
   FCD2>0646+062C FCD3>0646+062D FCD4>0646+062E FCD5>0646+0645 FCD6>0646+0647 FCD7>0647+062C
   FCD8>0647+0645 FCD9>0647+0670 FCDA>064A+062C FCDB>064A+062D FCDC>064A+062E FCDD>064A+0645
   FCDE>064A+0647 FCDF>0626+0645 FCE0>0626+0647 FCE1>0628+0645 FCE2>0628+0647 FCE3>062A+0645
   FCE4>062A+0647 FCE5>062B+0645 FCE6>062B+0647 FCE7>0633+0645 FCE8>0633+0647 FCE9>0634+0645
   FCEA>0634+0647 FCEB>0643+0644 FCEC-FCED>0643+0645 FCEE>0646+0645 FCEF>0646+0647
   FCF0>064A+0645 FCF1>064A+0647 FCF2>0640+064E+0651 FCF3>0640+064F+0651 FCF4>0640+0650+0651
   FCF5>0637+0649 FCF6>0637+064A FCF7>0639+0649 FCF8>0639+064A FCF9>063A+0649 FCFA>063A+064A
   FCFB>0633+0649 FCFC>0633+064A FCFD>0634+0649 FCFE>0634+064A FCFF>062D+0649 FD00>062D+064A
   FD01>062C+0649 FD02>062C+064A FD03>062E+0649 FD04>062E+064A FD05>0635+0649 FD06>0635+064A
   FD07>0636+0649 FD08>0636+064A FD09>0634+062C FD0A>0634+062D FD0B>0634+062E FD0C>0634+0645
   FD0D>0634+0631 FD0E>0633+0631 FD0F-FD10>0635+0631 FD11>0637+0649 FD12>0637+064A
   FD13>0639+0649 FD14>0639+064A FD15>063A+0649 FD16>063A+064A FD17>0633+0649 FD18>0633+064A
   FD19>0634+0649 FD1A>0634+064A FD1B>062D+0649 FD1C>062D+064A FD1D>062C+0649 FD1E>062C+064A
   FD1F>062E+0649 FD20>062E+064A FD21>0635+0649 FD22>0635+064A FD23>0636+0649 FD24>0636+064A
   FD25>0634+062C FD26>0634+062D FD27>0634+062E FD28>0634+0645 FD29>0634+0631 FD2A>0633+0631
   FD2B-FD2C>0635+0631 FD2D>0634+062C FD2E>0634+062D FD2F>0634+062E FD30>0634+0645
   FD31-FD32>0633+0647 FD33>0637+0645 FD34>0633+062C FD35>0633+062D FD36>0633+062E
   FD37>0634+062C FD38>0634+062D FD39>0634+062E FD3A-FD3B>0637+0645 FD3C>0627+064B
   FD3D>0627+064B FD50>062A+062C+0645 FD51>062A+062D+062C FD52>062A+062D+062C
   FD53>062A+062D+0645 FD54>062A+062E+0645 FD55>062A+0645+062C FD56>062A+0645+062D
   FD57>062A+0645+062E FD58>062C+0645+062D FD59>062C+0645+062D FD5A>062D+0645+064A
   FD5B>062D+0645+0649 FD5C>0633+062D+062C FD5D>0633+062C+062D FD5E>0633+062C+0649
   FD5F>0633+0645+062D FD60>0633+0645+062D FD61>0633+0645+062C FD62>0633+0645+0645
   FD63>0633+0645+0645 FD64>0635+062D+062D FD65>0635+062D+062D FD66>0635+0645+0645
   FD67>0634+062D+0645 FD68>0634+062D+0645 FD69>0634+062C+064A FD6A>0634+0645+062E
   FD6B>0634+0645+062E FD6C>0634+0645+0645 FD6D>0634+0645+0645 FD6E>0636+062D+0649
   FD6F>0636+062E+0645 FD70>0636+062E+0645 FD71>0637+0645+062D FD72>0637+0645+062D
   FD73>0637+0645+0645 FD74>0637+0645+064A FD75>0639+062C+0645 FD76>0639+0645+0645
   FD77>0639+0645+0645 FD78>0639+0645+0649 FD79>063A+0645+0645 FD7A>063A+0645+064A
   FD7B>063A+0645+0649 FD7C>0641+062E+0645 FD7D>0641+062E+0645 FD7E>0642+0645+062D
   FD7F>0642+0645+0645 FD80>0644+062D+0645 FD81>0644+062D+064A FD82>0644+062D+0649
   FD83>0644+062C+062C FD84>0644+062C+062C FD85>0644+062E+0645 FD86>0644+062E+0645
   FD87>0644+0645+062D FD88>0644+0645+062D FD89>0645+062D+062C FD8A>0645+062D+0645
   FD8B>0645+062D+064A FD8C>0645+062C+062D FD8D>0645+062C+0645 FD8E>0645+062E+062C
   FD8F>0645+062E+0645 FD92>0645+062C+062E FD93>0647+0645+062C FD94>0647+0645+0645
   FD95>0646+062D+0645 FD96>0646+062D+0649 FD97>0646+062C+0645 FD98>0646+062C+0645
   FD99>0646+062C+0649 FD9A>0646+0645+064A FD9B>0646+0645+0649 FD9C>064A+0645+0645
   FD9D>064A+0645+0645 FD9E>0628+062E+064A FD9F>062A+062C+064A FDA0>062A+062C+0649
   FDA1>062A+062E+064A FDA2>062A+062E+0649 FDA3>062A+0645+064A FDA4>062A+0645+0649
   FDA5>062C+0645+064A FDA6>062C+062D+0649 FDA7>062C+0645+0649 FDA8>0633+062E+0649
   FDA9>0635+062D+064A FDAA>0634+062D+064A FDAB>0636+062D+064A FDAC>0644+062C+064A
   FDAD>0644+0645+064A FDAE>064A+062D+064A FDAF>064A+062C+064A FDB0>064A+0645+064A
   FDB1>0645+0645+064A FDB2>0642+0645+064A FDB3>0646+062D+064A FDB4>0642+0645+062D
   FDB5>0644+062D+0645 FDB6>0639+0645+064A FDB7>0643+0645+064A FDB8>0646+062C+062D
   FDB9>0645+062E+064A FDBA>0644+062C+0645 FDBB>0643+0645+0645 FDBC>0644+062C+0645
   FDBD>0646+062C+062D FDBE>062C+062D+064A FDBF>062D+062C+064A FDC0>0645+062C+064A
   FDC1>0641+0645+064A FDC2>0628+062D+064A FDC3>0643+0645+0645 FDC4>0639+062C+0645
   FDC5>0635+0645+0645 FDC6>0633+062E+064A FDC7>0646+062C+064A FDF0>0635+0644+06D2
   FDF1>0642+0644+06D2 FDF2>0627+0644+0644+0647 FDF3>0627+0643+0628+0631
   FDF4>0645+062D+0645+062F FDF5>0635+0644+0639+0645 FDF6>0631+0633+0648+0644
   FDF7>0639+0644+064A+0647 FDF8>0648+0633+0644+0645 FDF9>0635+0644+0649
   FDFA>0635+0644+0649+0020+0627+0644+0644+0647+0020+0639+0644+064A+0647+0020+0648+0633+0644+0645
   FDFB>062C+0644+0020+062C+0644+0627+0644+0647 FDFC>0631+06CC+0627+0644 FE00-FE0F> FE10>002C
   FE11>3001 FE13-FE14>003A FE15>0021 FE16>003F FE17-FE18>3016 FE31>2014 FE32>2013 FE33>005F
   FE34>005F FE35-FE36>0028 FE37>007B FE38>007D FE39-FE3A>3014 FE3B-FE3C>3010 FE3D-FE3E>300A
   FE3F-FE40>3008 FE41-FE44>300C FE47>005B FE48>005D FE49>0020+0305 FE4A>0020+0305
   FE4B>0020+0305 FE4C>0020+0305 FE4D>005F FE4E>005F FE4F>005F FE50>002C FE51>3001 FE54>003B
   FE55>003A FE56>003F FE57>0021 FE58>2014 FE59-FE5A>0028 FE5B>007B FE5C>007D FE5D-FE5E>3014
   FE5F>0023 FE60>0026 FE61-FE62>002A FE63>002D FE64>003C FE65>003E FE66>003D FE68>005C
   FE69-FE6A>0024 FE6B>0040 FE70>0020+064B FE71>0640+064B FE72>0020+064C FE74>0020+064D
   FE76>0020+064E FE77>0640+064E FE78>0020+064F FE79>0640+064F FE7A>0020+0650 FE7B>0640+0650
   FE7C>0020+0651 FE7D>0640+0651 FE7E>0020+0652 FE7F>0640+0652 FE80-FE81>0621 FE82-FE83>0622
   FE84-FE85>0623 FE86-FE87>0624 FE88-FE89>0625 FE8A>0626 FE8B>0626 FE8C-FE8D>0626
   FE8E-FE8F>0627 FE90>0628 FE91>0628 FE92-FE93>0628 FE94-FE95>0629 FE96>062A FE97>062A
   FE98-FE99>062A FE9A>062B FE9B>062B FE9C-FE9D>062B FE9E>062C FE9F>062C FEA0-FEA1>062C
   FEA2>062D FEA3>062D FEA4-FEA5>062D FEA6>062E FEA7>062E FEA8-FEA9>062E FEAA-FEAB>062F
   FEAC-FEAD>0630 FEAE-FEAF>0631 FEB0-FEB1>0632 FEB2>0633 FEB3>0633 FEB4-FEB5>0633 FEB6>0634
   FEB7>0634 FEB8-FEB9>0634 FEBA>0635 FEBB>0635 FEBC-FEBD>0635 FEBE>0636 FEBF>0636
   FEC0-FEC1>0636 FEC2>0637 FEC3>0637 FEC4-FEC5>0637 FEC6>0638 FEC7>0638 FEC8-FEC9>0638
   FECA>0639 FECB>0639 FECC-FECD>0639 FECE>063A FECF>063A FED0>063A FED1>0641 FED2>0641
   FED3>0641 FED4-FED5>0641 FED6>0642 FED7>0642 FED8-FED9>0642 FEDA>0643 FEDB>0643
   FEDC-FEDD>0643 FEDE>0644 FEDF>0644 FEE0-FEE1>0644 FEE2>0645 FEE3>0645 FEE4-FEE5>0645
   FEE6>0646 FEE7>0646 FEE8-FEE9>0646 FEEA>0647 FEEB>0647 FEEC-FEED>0647 FEEE-FEEF>0648
   FEF0-FEF1>0649 FEF2>064A FEF3>064A FEF4>064A FEF5>0644+0622 FEF6>0644+0622 FEF7>0644+0623
   FEF8>0644+0623 FEF9>0644+0625 FEFA>0644+0625 FEFB>0644+0627 FEFC>0644+0627 FEFF>
   FF01-FF20>0021 FF21-FF3A>0061 FF3B-FF5E>005B FF5F-FF60>2985 FF61>002E FF62-FF63>300C
   FF64>3001 FF65>30FB FF66>30F2 FF67>30A1 FF68>30A3 FF69>30A5 FF6A>30A7 FF6B>30A9 FF6C>30E3
   FF6D>30E5 FF6E>30E7 FF6F>30C3 FF70>30FC FF71>30A2 FF72>30A4 FF73>30A6 FF74>30A8
   FF75-FF76>30AA FF77>30AD FF78>30AF FF79>30B1 FF7A>30B3 FF7B>30B5 FF7C>30B7 FF7D>30B9
   FF7E>30BB FF7F>30BD FF80>30BF FF81>30C1 FF82>30C4 FF83>30C6 FF84>30C8 FF85-FF8A>30CA
   FF8B>30D2 FF8C>30D5 FF8D>30D8 FF8E>30DB FF8F-FF93>30DE FF94>30E4 FF95>30E6 FF96-FF9B>30E8
   FF9C>30EF FF9D>30F3 FF9E-FF9F>3099 FFA0> FFA1-FFA2>1100 FFA3>11AA FFA4>1102 FFA5-FFA6>11AC
   FFA7-FFA9>1103 FFAA-FFAF>11B0 FFB0>111A FFB1-FFB3>1106 FFB4>1121 FFB5-FFBE>1109
   FFC2-FFC7>1161 FFCA-FFCF>1167 FFD2-FFD7>116D FFDA-FFDC>1173 FFE0-FFE1>00A2 FFE2>00AC
   FFE3>0020+0304 FFE4>00A6 FFE5>00A5 FFE6>20A9 FFE8>2502 FFE9-FFEC>2190 FFED>25A0 FFEE>25CB
   10400-10427>10428 104B0-104D3>104D8 10570-1057A>10597 1057C-1058A>105A3 1058C-10592>105B3
   10594-10595>105BB 10781-10782>02D0 10783>00E6 10784>0299 10785>0253 10787>02A3 10788>AB66
   10789>02A5 1078A>02A4 1078B-1078C>0256 1078D>1D91 1078E>0258 1078F>025E 10790>02A9
   10791>0264 10792>0262 10793>0260 10794>029B 10795>0127 10796>029C 10797>0267 10798>0284
   10799-1079A>02AA 1079B>026C 1079C>1DF04 1079D>A78E 1079E>026E 1079F>1DF05 107A0>028E
   107A1>1DF06 107A2>00F8 107A3-107A4>0276 107A5>0071 107A6>027A 107A7>1DF08 107A8-107A9>027D
   107AA>0280 107AB>02A8 107AC>02A6 107AD>AB67 107AE>02A7 107AF>0288 107B0>2C71 107B2>028F
   107B3-107B4>02A1 107B5>0298 107B6-107B8>01C0 107B9>1DF0A 107BA>1DF1E 10C80-10CB2>10CC0
   10D50-10D65>10D70 118A0-118BF>118C0 16E40-16E5F>16E60 16EA0-16EB8>16EBB 1BCA0-1BCA3>
   1CCD6-1CCEF>0061 1CCF0-1CCF9>0030 1D173-1D17A> 1D400-1D419>0061 1D41A-1D433>0061
   1D434-1D44D>0061 1D44E-1D454>0061 1D456-1D467>0069 1D468-1D481>0061 1D482-1D49B>0061
   1D49C-1D49E/2>0061 1D49F>0064 1D4A2>0067 1D4A5-1D4A6>006A 1D4A9-1D4AC>006E 1D4AE-1D4B5>0073
   1D4B6-1D4B9>0061 1D4BB-1D4BD/2>0066 1D4BE-1D4C3>0069 1D4C5-1D4CF>0070 1D4D0-1D4E9>0061
   1D4EA-1D503>0061 1D504-1D505>0061 1D507-1D50A>0064 1D50D-1D514>006A 1D516-1D51C>0073
   1D51E-1D537>0061 1D538-1D539>0061 1D53B-1D53E>0064 1D540-1D544>0069 1D546>006F
   1D54A-1D550>0073 1D552-1D56B>0061 1D56C-1D585>0061 1D586-1D59F>0061 1D5A0-1D5B9>0061
   1D5BA-1D5D3>0061 1D5D4-1D5ED>0061 1D5EE-1D607>0061 1D608-1D621>0061 1D622-1D63B>0061
   1D63C-1D655>0061 1D656-1D66F>0061 1D670-1D689>0061 1D68A-1D6A3>0061 1D6A4>0131 1D6A5>0237
   1D6A8-1D6B8>03B1 1D6B9>03B8 1D6BA-1D6C0>03C3 1D6C1>2207 1D6C2-1D6D2>03B1 1D6D3>03C3
   1D6D4-1D6DA>03C3 1D6DB>2202 1D6DC>03B5 1D6DD>03B8 1D6DE>03BA 1D6DF>03C6 1D6E0>03C1
   1D6E1>03C0 1D6E2-1D6F2>03B1 1D6F3>03B8 1D6F4-1D6FA>03C3 1D6FB>2207 1D6FC-1D70C>03B1
   1D70D>03C3 1D70E-1D714>03C3 1D715>2202 1D716>03B5 1D717>03B8 1D718>03BA 1D719>03C6
   1D71A>03C1 1D71B>03C0 1D71C-1D72C>03B1 1D72D>03B8 1D72E-1D734>03C3 1D735>2207
   1D736-1D746>03B1 1D747>03C3 1D748-1D74E>03C3 1D74F>2202 1D750>03B5 1D751>03B8 1D752>03BA
   1D753>03C6 1D754>03C1 1D755>03C0 1D756-1D766>03B1 1D767>03B8 1D768-1D76E>03C3 1D76F>2207
   1D770-1D780>03B1 1D781>03C3 1D782-1D788>03C3 1D789>2202 1D78A>03B5 1D78B>03B8 1D78C>03BA
   1D78D>03C6 1D78E>03C1 1D78F>03C0 1D790-1D7A0>03B1 1D7A1>03B8 1D7A2-1D7A8>03C3 1D7A9>2207
   1D7AA-1D7BA>03B1 1D7BB>03C3 1D7BC-1D7C2>03C3 1D7C3>2202 1D7C4>03B5 1D7C5>03B8 1D7C6>03BA
   1D7C7>03C6 1D7C8>03C1 1D7C9>03C0 1D7CA>03DD 1D7CB>03DD 1D7CE-1D7D7>0030 1D7D8-1D7E1>0030
   1D7E2-1D7EB>0030 1D7EC-1D7F5>0030 1D7F6-1D7FF>0030 1E030-1E038>0430 1E039-1E03B>043A
   1E03C-1E046>043E 1E047>044B 1E048-1E049>044D 1E04A>A689 1E04B>04D9 1E04C>0456 1E04D>0458
   1E04E>04E9 1E04F>04AF 1E050>04CF 1E051-1E059>0430 1E05A-1E05B>043A 1E05C-1E05D>043E
   1E05E>0441 1E05F-1E064>0443 1E065-1E066>044A 1E067>0491 1E068>0456 1E069>0455 1E06A>045F
   1E06B>04AB 1E06C>A651 1E06D>04B1 1E900-1E921>1E922 1EE00-1EE01>0627 1EE02>062C 1EE03>062F
   1EE05>0648 1EE06>0632 1EE07>062D 1EE08>0637 1EE09>064A 1EE0A-1EE0D>0643 1EE0E>0633
   1EE0F>0639 1EE10>0641 1EE11>0635 1EE12>0642 1EE13>0631 1EE14>0634 1EE15-1EE16>062A
   1EE17>062E 1EE18>0630 1EE19>0636 1EE1A>0638 1EE1B>063A 1EE1C>066E 1EE1D>06BA 1EE1E>06A1
   1EE1F>066F 1EE21>0628 1EE22>062C 1EE24>0647 1EE27>062D 1EE29>064A 1EE2A-1EE2D>0643
   1EE2E>0633 1EE2F>0639 1EE30>0641 1EE31>0635 1EE32>0642 1EE34>0634 1EE35-1EE36>062A
   1EE37>062E 1EE39>0636 1EE3B>063A 1EE42>062C 1EE47>062D 1EE49>064A 1EE4B-1EE4D/2>0644
   1EE4E>0633 1EE4F>0639 1EE51>0635 1EE52>0642 1EE54>0634 1EE57>062E 1EE59>0636 1EE5B>063A
   1EE5D>06BA 1EE5F>066F 1EE61>0628 1EE62>062C 1EE64>0647 1EE67>062D 1EE68>0637 1EE69>064A
   1EE6A-1EE6C/2>0643 1EE6D>0646 1EE6E>0633 1EE6F>0639 1EE70>0641 1EE71>0635 1EE72>0642
   1EE74>0634 1EE75-1EE76>062A 1EE77>062E 1EE79>0636 1EE7A>0638 1EE7B>063A 1EE7C>066E
   1EE7E>06A1 1EE80-1EE81>0627 1EE82>062C 1EE83>062F 1EE84-1EE85>0647 1EE86>0632 1EE87>062D
   1EE88>0637 1EE89>064A 1EE8B-1EE8D>0644 1EE8E>0633 1EE8F>0639 1EE90>0641 1EE91>0635
   1EE92>0642 1EE93>0631 1EE94>0634 1EE95-1EE96>062A 1EE97>062E 1EE98>0630 1EE99>0636
   1EE9A>0638 1EE9B>063A 1EEA1>0628 1EEA2>062C 1EEA3>062F 1EEA5>0648 1EEA6>0632 1EEA7>062D
   1EEA8>0637 1EEA9>064A 1EEAB-1EEAD>0644 1EEAE>0633 1EEAF>0639 1EEB0>0641 1EEB1>0635
   1EEB2>0642 1EEB3>0631 1EEB4>0634 1EEB5-1EEB6>062A 1EEB7>062E 1EEB8>0630 1EEB9>0636
   1EEBA>0638 1EEBB>063A 1F101-1F10A>0030+002C 1F110>0028+0061+0029 1F111>0028+0062+0029
   1F112>0028+0063+0029 1F113>0028+0064+0029 1F114>0028+0065+0029 1F115>0028+0066+0029
   1F116>0028+0067+0029 1F117>0028+0068+0029 1F118>0028+0069+0029 1F119>0028+006A+0029
   1F11A>0028+006B+0029 1F11B>0028+006C+0029 1F11C>0028+006D+0029 1F11D>0028+006E+0029
   1F11E>0028+006F+0029 1F11F>0028+0070+0029 1F120>0028+0071+0029 1F121>0028+0072+0029
   1F122>0028+0073+0029 1F123>0028+0074+0029 1F124>0028+0075+0029 1F125>0028+0076+0029
   1F126>0028+0077+0029 1F127>0028+0078+0029 1F128>0028+0079+0029 1F129>0028+007A+0029
   1F12A>3014+0073+3015 1F12B>0063 1F12C>0072 1F12D>0063+0064 1F12E>0077+007A 1F130-1F149>0061
   1F14A>0068+0076 1F14B>006D+0076 1F14C>0073+0064 1F14D>0073+0073 1F14E>0070+0070+0076
   1F14F>0077+0063 1F16A>006D+0063 1F16B>006D+0064 1F16C>006D+0072 1F190>0064+006A
   1F200>307B+304B 1F201>30B3+30B3 1F202>30B5 1F210>624B 1F211>5B57 1F212>53CC 1F213>30C7
   1F214>4E8C 1F215>591A 1F216>89E3 1F217>5929 1F218>4EA4 1F219>6620 1F21A>7121 1F21B>6599
   1F21C>524D 1F21D>5F8C 1F21E>518D 1F21F>65B0 1F220>521D 1F221>7D42 1F222>751F 1F223>8CA9
   1F224>58F0 1F225>5439 1F226>6F14 1F227>6295 1F228>6355 1F229>4E00 1F22A>4E09 1F22B>904A
   1F22C>5DE6 1F22D>4E2D 1F22E>53F3 1F22F>6307 1F230>8D70 1F231>6253 1F232>7981 1F233>7A7A
   1F234>5408 1F235>6E80 1F236>6709 1F237>6708 1F238>7533 1F239>5272 1F23A>55B6 1F23B>914D
   1F240>3014+672C+3015 1F241>3014+4E09+3015 1F242>3014+4E8C+3015 1F243>3014+5B89+3015
   1F244>3014+70B9+3015 1F245>3014+6253+3015 1F246>3014+76D7+3015 1F247>3014+52DD+3015
   1F248>3014+6557+3015 1F250>5F97 1F251>53EF 1FBF0-1FBF9>0030 E0100-E01EF>"

/-- Whether a character that stands for itself can stand in a name. -/
def isValid (c : Char) : Bool :=
  if c.toNat < 0x80 then !c.isUpper
  else (standsFor.get? c).isNone && validCharacters.contains c

/-- The characters that a character stands for, if it may be used in a name. -/
def spell? (c : Char) : Option (List Char) :=
  if c.toNat < 0x80 then some [c.toLower]
  else match standsFor.get? c with
    | some cs => some cs
    | none => if validCharacters.contains c then some [c] else none

end AgentId.Idna
