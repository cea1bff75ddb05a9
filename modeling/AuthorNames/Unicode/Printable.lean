import AuthorNames.Unicode.StepTable
/-!
Which characters a quoted text shows as they are. The others, when a text is quoted, are written by
their number: controls, format characters, separators other than the space, unassigned and private
code points, and marks that would attach themselves to the character before.
-/

namespace AuthorNames.Unicode

/-- `p` where a character is shown, `x` where it is not. -/
def printableTable : StepTable := .parse "
0:x 20:p 7F:x A1:p AD:x AE:p 300:x 370:p 378:x 37A:p 380:x 384:p 38B:x 38C:p 38D:x 38E:p 3A2:x
3A3:p 483:x 48A:p 530:x 531:p 557:x 559:p 58B:x 58D:p 590:x 5BE:p 5BF:x 5C0:p 5C1:x 5C3:p 5C4:x
5C6:p 5C7:x 5D0:p 5EB:x 5EF:p 5F5:x 606:p 610:x 61B:p 61C:x 61D:p 64B:x 660:p 670:x 671:p 6D6:x
6DE:p 6DF:x 6E5:p 6E7:x 6E9:p 6EA:x 6EE:p 70E:x 710:p 711:x 712:p 730:x 74D:p 7A6:x 7B1:p 7B2:x
7C0:p 7EB:x 7F4:p 7FB:x 7FE:p 816:x 81A:p 81B:x 824:p 825:x 828:p 829:x 830:p 83F:x 840:p 859:x
85E:p 85F:x 860:p 86B:x 870:p 88F:x 8A0:p 8CA:x 903:p 93A:x 93B:p 93C:x 93D:p 941:x 949:p 94D:x
94E:p 951:x 958:p 962:x 964:p 981:x 982:p 984:x 985:p 98D:x 98F:p 991:x 993:p 9A9:x 9AA:p 9B1:x
9B2:p 9B3:x 9B6:p 9BA:x 9BD:p 9BE:x 9BF:p 9C1:x 9C7:p 9C9:x 9CB:p 9CD:x 9CE:p 9CF:x 9DC:p 9DE:x
9DF:p 9E2:x 9E6:p 9FE:x A03:p A04:x A05:p A0B:x A0F:p A11:x A13:p A29:x A2A:p A31:x A32:p A34:x
A35:p A37:x A38:p A3A:x A3E:p A41:x A59:p A5D:x A5E:p A5F:x A66:p A70:x A72:p A75:x A76:p A77:x
A83:p A84:x A85:p A8E:x A8F:p A92:x A93:p AA9:x AAA:p AB1:x AB2:p AB4:x AB5:p ABA:x ABD:p AC1:x
AC9:p ACA:x ACB:p ACD:x AD0:p AD1:x AE0:p AE2:x AE6:p AF2:x AF9:p AFA:x B02:p B04:x B05:p B0D:x
B0F:p B11:x B13:p B29:x B2A:p B31:x B32:p B34:x B35:p B3A:x B3D:p B3E:x B40:p B41:x B47:p B49:x
B4B:p B4D:x B5C:p B5E:x B5F:p B62:x B66:p B78:x B83:p B84:x B85:p B8B:x B8E:p B91:x B92:p B96:x
B99:p B9B:x B9C:p B9D:x B9E:p BA0:x BA3:p BA5:x BA8:p BAB:x BAE:p BBA:x BBF:p BC0:x BC1:p BC3:x
BC6:p BC9:x BCA:p BCD:x BD0:p BD1:x BE6:p BFB:x C01:p C04:x C05:p C0D:x C0E:p C11:x C12:p C29:x
C2A:p C3A:x C3D:p C3E:x C41:p C45:x C58:p C5B:x C5D:p C5E:x C60:p C62:x C66:p C70:x C77:p C81:x
C82:p C8D:x C8E:p C91:x C92:p CA9:x CAA:p CB4:x CB5:p CBA:x CBD:p CBF:x CC0:p CC2:x CC3:p CC5:x
CC7:p CC9:x CCA:p CCC:x CDD:p CDF:x CE0:p CE2:x CE6:p CF0:x CF1:p CF4:x D02:p D0D:x D0E:p D11:x
D12:p D3B:x D3D:p D3E:x D3F:p D41:x D46:p D49:x D4A:p D4D:x D4E:p D50:x D54:p D57:x D58:p D62:x
D66:p D80:x D82:p D84:x D85:p D97:x D9A:p DB2:x DB3:p DBC:x DBD:p DBE:x DC0:p DC7:x DD0:p DD2:x
DD8:p DDF:x DE6:p DF0:x DF2:p DF5:x E01:p E31:x E32:p E34:x E3F:p E47:x E4F:p E5C:x E81:p E83:x
E84:p E85:x E86:p E8B:x E8C:p EA4:x EA5:p EA6:x EA7:p EB1:x EB2:p EB4:x EBD:p EBE:x EC0:p EC5:x
EC6:p EC7:x ED0:p EDA:x EDC:p EE0:x F00:p F18:x F1A:p F35:x F36:p F37:x F38:p F39:x F3A:p F48:x
F49:p F6D:x F7F:p F80:x F85:p F86:x F88:p F8D:x FBE:p FC6:x FC7:p FCD:x FCE:p FDB:x 1000:p 102D:x
1031:p 1032:x 1038:p 1039:x 103B:p 103D:x 103F:p 1058:x 105A:p 105E:x 1061:p 1071:x 1075:p 1082:x
1083:p 1085:x 1087:p 108D:x 108E:p 109D:x 109E:p 10C6:x 10C7:p 10C8:x 10CD:p 10CE:x 10D0:p 1249:x
124A:p 124E:x 1250:p 1257:x 1258:p 1259:x 125A:p 125E:x 1260:p 1289:x 128A:p 128E:x 1290:p 12B1:x
12B2:p 12B6:x 12B8:p 12BF:x 12C0:p 12C1:x 12C2:p 12C6:x 12C8:p 12D7:x 12D8:p 1311:x 1312:p 1316:x
1318:p 135B:x 1360:p 137D:x 1380:p 139A:x 13A0:p 13F6:x 13F8:p 13FE:x 1400:p 1680:x 1681:p 169D:x
16A0:p 16F9:x 1700:p 1712:x 1715:p 1716:x 171F:p 1732:x 1734:p 1737:x 1740:p 1752:x 1760:p 176D:x
176E:p 1771:x 1780:p 17B4:x 17B6:p 17B7:x 17BE:p 17C6:x 17C7:p 17C9:x 17D4:p 17DD:x 17E0:p 17EA:x
17F0:p 17FA:x 1800:p 180B:x 1810:p 181A:x 1820:p 1879:x 1880:p 1885:x 1887:p 18A9:x 18AA:p 18AB:x
18B0:p 18F6:x 1900:p 191F:x 1923:p 1927:x 1929:p 192C:x 1930:p 1932:x 1933:p 1939:x 1940:p 1941:x
1944:p 196E:x 1970:p 1975:x 1980:p 19AC:x 19B0:p 19CA:x 19D0:p 19DB:x 19DE:p 1A17:x 1A19:p 1A1B:x
1A1E:p 1A56:x 1A57:p 1A58:x 1A61:p 1A62:x 1A63:p 1A65:x 1A6D:p 1A73:x 1A80:p 1A8A:x 1A90:p 1A9A:x
1AA0:p 1AAE:x 1B04:p 1B34:x 1B3B:p 1B3C:x 1B3D:p 1B42:x 1B43:p 1B4D:x 1B50:p 1B6B:x 1B74:p 1B7F:x
1B82:p 1BA2:x 1BA6:p 1BA8:x 1BAA:p 1BAB:x 1BAE:p 1BE6:x 1BE7:p 1BE8:x 1BEA:p 1BED:x 1BEE:p 1BEF:x
1BF2:p 1BF4:x 1BFC:p 1C2C:x 1C34:p 1C36:x 1C3B:p 1C4A:x 1C4D:p 1C89:x 1C90:p 1CBB:x 1CBD:p 1CC8:x
1CD3:p 1CD4:x 1CE1:p 1CE2:x 1CE9:p 1CED:x 1CEE:p 1CF4:x 1CF5:p 1CF8:x 1CFA:p 1CFB:x 1D00:p 1DC0:x
1E00:p 1F16:x 1F18:p 1F1E:x 1F20:p 1F46:x 1F48:p 1F4E:x 1F50:p 1F58:x 1F59:p 1F5A:x 1F5B:p 1F5C:x
1F5D:p 1F5E:x 1F5F:p 1F7E:x 1F80:p 1FB5:x 1FB6:p 1FC5:x 1FC6:p 1FD4:x 1FD6:p 1FDC:x 1FDD:p 1FF0:x
1FF2:p 1FF5:x 1FF6:p 1FFF:x 2010:p 2028:x 2030:p 205F:x 2070:p 2072:x 2074:p 208F:x 2090:p 209D:x
20A0:p 20C1:x 2100:p 218C:x 2190:p 2427:x 2440:p 244B:x 2460:p 2B74:x 2B76:p 2B96:x 2B97:p 2CEF:x
2CF2:p 2CF4:x 2CF9:p 2D26:x 2D27:p 2D28:x 2D2D:p 2D2E:x 2D30:p 2D68:x 2D6F:p 2D71:x 2D80:p 2D97:x
2DA0:p 2DA7:x 2DA8:p 2DAF:x 2DB0:p 2DB7:x 2DB8:p 2DBF:x 2DC0:p 2DC7:x 2DC8:p 2DCF:x 2DD0:p 2DD7:x
2DD8:p 2DDF:x 2E00:p 2E5E:x 2E80:p 2E9A:x 2E9B:p 2EF4:x 2F00:p 2FD6:x 2FF0:p 2FFC:x 3001:p 302A:x
3030:p 3040:x 3041:p 3097:x 309B:p 3100:x 3105:p 3130:x 3131:p 318F:x 3190:p 31E4:x 31F0:p 321F:x
3220:p A48D:x A490:p A4C7:x A4D0:p A62C:x A640:p A66F:x A673:p A674:x A67E:p A69E:x A6A0:p A6F0:x
A6F2:p A6F8:x A700:p A7CB:x A7D0:p A7D2:x A7D3:p A7D4:x A7D5:p A7DA:x A7F2:p A802:x A803:p A806:x
A807:p A80B:x A80C:p A825:x A827:p A82C:x A830:p A83A:x A840:p A878:x A880:p A8C4:x A8CE:p A8DA:x
A8F2:p A8FF:x A900:p A926:x A92E:p A947:x A952:p A954:x A95F:p A97D:x A983:p A9B3:x A9B4:p A9B6:x
A9BA:p A9BC:x A9BE:p A9CE:x A9CF:p A9DA:x A9DE:p A9E5:x A9E6:p A9FF:x AA00:p AA29:x AA2F:p AA31:x
AA33:p AA35:x AA40:p AA43:x AA44:p AA4C:x AA4D:p AA4E:x AA50:p AA5A:x AA5C:p AA7C:x AA7D:p AAB0:x
AAB1:p AAB2:x AAB5:p AAB7:x AAB9:p AABE:x AAC0:p AAC1:x AAC2:p AAC3:x AADB:p AAEC:x AAEE:p AAF6:x
AB01:p AB07:x AB09:p AB0F:x AB11:p AB17:x AB20:p AB27:x AB28:p AB2F:x AB30:p AB6C:x AB70:p ABE5:x
ABE6:p ABE8:x ABE9:p ABED:x ABF0:p ABFA:x AC00:p D7A4:x D7B0:p D7C7:x D7CB:p D7FC:x F900:p FA6E:x
FA70:p FADA:x FB00:p FB07:x FB13:p FB18:x FB1D:p FB1E:x FB1F:p FB37:x FB38:p FB3D:x FB3E:p FB3F:x
FB40:p FB42:x FB43:p FB45:x FB46:p FBC3:x FBD3:p FD90:x FD92:p FDC8:x FDCF:p FDD0:x FDF0:p FE00:x
FE10:p FE1A:x FE30:p FE53:x FE54:p FE67:x FE68:p FE6C:x FE70:p FE75:x FE76:p FEFD:x FF01:p FF9E:x
FFA0:p FFBF:x FFC2:p FFC8:x FFCA:p FFD0:x FFD2:p FFD8:x FFDA:p FFDD:x FFE0:p FFE7:x FFE8:p FFEF:x
FFFC:p FFFE:x 10000:p 1000C:x 1000D:p 10027:x 10028:p 1003B:x 1003C:p 1003E:x 1003F:p 1004E:x
10050:p 1005E:x 10080:p 100FB:x 10100:p 10103:x 10107:p 10134:x 10137:p 1018F:x 10190:p 1019D:x
101A0:p 101A1:x 101D0:p 101FD:x 10280:p 1029D:x 102A0:p 102D1:x 102E1:p 102FC:x 10300:p 10324:x
1032D:p 1034B:x 10350:p 10376:x 10380:p 1039E:x 1039F:p 103C4:x 103C8:p 103D6:x 10400:p 1049E:x
104A0:p 104AA:x 104B0:p 104D4:x 104D8:p 104FC:x 10500:p 10528:x 10530:p 10564:x 1056F:p 1057B:x
1057C:p 1058B:x 1058C:p 10593:x 10594:p 10596:x 10597:p 105A2:x 105A3:p 105B2:x 105B3:p 105BA:x
105BB:p 105BD:x 10600:p 10737:x 10740:p 10756:x 10760:p 10768:x 10780:p 10786:x 10787:p 107B1:x
107B2:p 107BB:x 10800:p 10806:x 10808:p 10809:x 1080A:p 10836:x 10837:p 10839:x 1083C:p 1083D:x
1083F:p 10856:x 10857:p 1089F:x 108A7:p 108B0:x 108E0:p 108F3:x 108F4:p 108F6:x 108FB:p 1091C:x
1091F:p 1093A:x 1093F:p 10940:x 10980:p 109B8:x 109BC:p 109D0:x 109D2:p 10A01:x 10A10:p 10A14:x
10A15:p 10A18:x 10A19:p 10A36:x 10A40:p 10A49:x 10A50:p 10A59:x 10A60:p 10AA0:x 10AC0:p 10AE5:x
10AEB:p 10AF7:x 10B00:p 10B36:x 10B39:p 10B56:x 10B58:p 10B73:x 10B78:p 10B92:x 10B99:p 10B9D:x
10BA9:p 10BB0:x 10C00:p 10C49:x 10C80:p 10CB3:x 10CC0:p 10CF3:x 10CFA:p 10D24:x 10D30:p 10D3A:x
10E60:p 10E7F:x 10E80:p 10EAA:x 10EAD:p 10EAE:x 10EB0:p 10EB2:x 10F00:p 10F28:x 10F30:p 10F46:x
10F51:p 10F5A:x 10F70:p 10F82:x 10F86:p 10F8A:x 10FB0:p 10FCC:x 10FE0:p 10FF7:x 11000:p 11001:x
11002:p 11038:x 11047:p 1104E:x 11052:p 11070:x 11071:p 11073:x 11075:p 11076:x 11082:p 110B3:x
110B7:p 110B9:x 110BB:p 110BD:x 110BE:p 110C2:x 110D0:p 110E9:x 110F0:p 110FA:x 11103:p 11127:x
1112C:p 1112D:x 11136:p 11148:x 11150:p 11173:x 11174:p 11177:x 11182:p 111B6:x 111BF:p 111C9:x
111CD:p 111CF:x 111D0:p 111E0:x 111E1:p 111F5:x 11200:p 11212:x 11213:p 1122F:x 11232:p 11234:x
11235:p 11236:x 11238:p 1123E:x 1123F:p 11241:x 11280:p 11287:x 11288:p 11289:x 1128A:p 1128E:x
1128F:p 1129E:x 1129F:p 112AA:x 112B0:p 112DF:x 112E0:p 112E3:x 112F0:p 112FA:x 11302:p 11304:x
11305:p 1130D:x 1130F:p 11311:x 11313:p 11329:x 1132A:p 11331:x 11332:p 11334:x 11335:p 1133A:x
1133D:p 1133E:x 1133F:p 11340:x 11341:p 11345:x 11347:p 11349:x 1134B:p 1134E:x 11350:p 11351:x
1135D:p 11364:x 11400:p 11438:x 11440:p 11442:x 11445:p 11446:x 11447:p 1145C:x 1145D:p 1145E:x
1145F:p 11462:x 11480:p 114B0:x 114B1:p 114B3:x 114B9:p 114BA:x 114BB:p 114BD:x 114BE:p 114BF:x
114C1:p 114C2:x 114C4:p 114C8:x 114D0:p 114DA:x 11580:p 115AF:x 115B0:p 115B2:x 115B8:p 115BC:x
115BE:p 115BF:x 115C1:p 115DC:x 11600:p 11633:x 1163B:p 1163D:x 1163E:p 1163F:x 11641:p 11645:x
11650:p 1165A:x 11660:p 1166D:x 11680:p 116AB:x 116AC:p 116AD:x 116AE:p 116B0:x 116B6:p 116B7:x
116B8:p 116BA:x 116C0:p 116CA:x 11700:p 1171B:x 11720:p 11722:x 11726:p 11727:x 11730:p 11747:x
11800:p 1182F:x 11838:p 11839:x 1183B:p 1183C:x 118A0:p 118F3:x 118FF:p 11907:x 11909:p 1190A:x
1190C:p 11914:x 11915:p 11917:x 11918:p 11930:x 11931:p 11936:x 11937:p 11939:x 1193D:p 1193E:x
1193F:p 11943:x 11944:p 11947:x 11950:p 1195A:x 119A0:p 119A8:x 119AA:p 119D4:x 119DC:p 119E0:x
119E1:p 119E5:x 11A00:p 11A01:x 11A0B:p 11A33:x 11A39:p 11A3B:x 11A3F:p 11A47:x 11A50:p 11A51:x
11A57:p 11A59:x 11A5C:p 11A8A:x 11A97:p 11A98:x 11A9A:p 11AA3:x 11AB0:p 11AF9:x 11B00:p 11B0A:x
11C00:p 11C09:x 11C0A:p 11C30:x 11C3E:p 11C3F:x 11C40:p 11C46:x 11C50:p 11C6D:x 11C70:p 11C90:x
11CA9:p 11CAA:x 11CB1:p 11CB2:x 11CB4:p 11CB5:x 11D00:p 11D07:x 11D08:p 11D0A:x 11D0B:p 11D31:x
11D46:p 11D47:x 11D50:p 11D5A:x 11D60:p 11D66:x 11D67:p 11D69:x 11D6A:p 11D8F:x 11D93:p 11D95:x
11D96:p 11D97:x 11D98:p 11D99:x 11DA0:p 11DAA:x 11EE0:p 11EF3:x 11EF5:p 11EF9:x 11F02:p 11F11:x
11F12:p 11F36:x 11F3E:p 11F40:x 11F41:p 11F42:x 11F43:p 11F5A:x 11FB0:p 11FB1:x 11FC0:p 11FF2:x
11FFF:p 1239A:x 12400:p 1246F:x 12470:p 12475:x 12480:p 12544:x 12F90:p 12FF3:x 13000:p 13430:x
13441:p 13447:x 14400:p 14647:x 16800:p 16A39:x 16A40:p 16A5F:x 16A60:p 16A6A:x 16A6E:p 16ABF:x
16AC0:p 16ACA:x 16AD0:p 16AEE:x 16AF5:p 16AF6:x 16B00:p 16B30:x 16B37:p 16B46:x 16B50:p 16B5A:x
16B5B:p 16B62:x 16B63:p 16B78:x 16B7D:p 16B90:x 16E40:p 16E9B:x 16F00:p 16F4B:x 16F50:p 16F88:x
16F93:p 16FA0:x 16FE0:p 16FE4:x 16FF0:p 16FF2:x 17000:p 187F8:x 18800:p 18CD6:x 18D00:p 18D09:x
1AFF0:p 1AFF4:x 1AFF5:p 1AFFC:x 1AFFD:p 1AFFF:x 1B000:p 1B123:x 1B132:p 1B133:x 1B150:p 1B153:x
1B155:p 1B156:x 1B164:p 1B168:x 1B170:p 1B2FC:x 1BC00:p 1BC6B:x 1BC70:p 1BC7D:x 1BC80:p 1BC89:x
1BC90:p 1BC9A:x 1BC9C:p 1BC9D:x 1BC9F:p 1BCA0:x 1CF50:p 1CFC4:x 1D000:p 1D0F6:x 1D100:p 1D127:x
1D129:p 1D165:x 1D166:p 1D167:x 1D16A:p 1D16E:x 1D183:p 1D185:x 1D18C:p 1D1AA:x 1D1AE:p 1D1EB:x
1D200:p 1D242:x 1D245:p 1D246:x 1D2C0:p 1D2D4:x 1D2E0:p 1D2F4:x 1D300:p 1D357:x 1D360:p 1D379:x
1D400:p 1D455:x 1D456:p 1D49D:x 1D49E:p 1D4A0:x 1D4A2:p 1D4A3:x 1D4A5:p 1D4A7:x 1D4A9:p 1D4AD:x
1D4AE:p 1D4BA:x 1D4BB:p 1D4BC:x 1D4BD:p 1D4C4:x 1D4C5:p 1D506:x 1D507:p 1D50B:x 1D50D:p 1D515:x
1D516:p 1D51D:x 1D51E:p 1D53A:x 1D53B:p 1D53F:x 1D540:p 1D545:x 1D546:p 1D547:x 1D54A:p 1D551:x
1D552:p 1D6A6:x 1D6A8:p 1D7CC:x 1D7CE:p 1DA00:x 1DA37:p 1DA3B:x 1DA6D:p 1DA75:x 1DA76:p 1DA84:x
1DA85:p 1DA8C:x 1DF00:p 1DF1F:x 1DF25:p 1DF2B:x 1E030:p 1E06E:x 1E100:p 1E12D:x 1E137:p 1E13E:x
1E140:p 1E14A:x 1E14E:p 1E150:x 1E290:p 1E2AE:x 1E2C0:p 1E2EC:x 1E2F0:p 1E2FA:x 1E2FF:p 1E300:x
1E4D0:p 1E4EC:x 1E4F0:p 1E4FA:x 1E7E0:p 1E7E7:x 1E7E8:p 1E7EC:x 1E7ED:p 1E7EF:x 1E7F0:p 1E7FF:x
1E800:p 1E8C5:x 1E8C7:p 1E8D0:x 1E900:p 1E944:x 1E94B:p 1E94C:x 1E950:p 1E95A:x 1E95E:p 1E960:x
1EC71:p 1ECB5:x 1ED01:p 1ED3E:x 1EE00:p 1EE04:x 1EE05:p 1EE20:x 1EE21:p 1EE23:x 1EE24:p 1EE25:x
1EE27:p 1EE28:x 1EE29:p 1EE33:x 1EE34:p 1EE38:x 1EE39:p 1EE3A:x 1EE3B:p 1EE3C:x 1EE42:p 1EE43:x
1EE47:p 1EE48:x 1EE49:p 1EE4A:x 1EE4B:p 1EE4C:x 1EE4D:p 1EE50:x 1EE51:p 1EE53:x 1EE54:p 1EE55:x
1EE57:p 1EE58:x 1EE59:p 1EE5A:x 1EE5B:p 1EE5C:x 1EE5D:p 1EE5E:x 1EE5F:p 1EE60:x 1EE61:p 1EE63:x
1EE64:p 1EE65:x 1EE67:p 1EE6B:x 1EE6C:p 1EE73:x 1EE74:p 1EE78:x 1EE79:p 1EE7D:x 1EE7E:p 1EE7F:x
1EE80:p 1EE8A:x 1EE8B:p 1EE9C:x 1EEA1:p 1EEA4:x 1EEA5:p 1EEAA:x 1EEAB:p 1EEBC:x 1EEF0:p 1EEF2:x
1F000:p 1F02C:x 1F030:p 1F094:x 1F0A0:p 1F0AF:x 1F0B1:p 1F0C0:x 1F0C1:p 1F0D0:x 1F0D1:p 1F0F6:x
1F100:p 1F1AE:x 1F1E6:p 1F203:x 1F210:p 1F23C:x 1F240:p 1F249:x 1F250:p 1F252:x 1F260:p 1F266:x
1F300:p 1F6D8:x 1F6DC:p 1F6ED:x 1F6F0:p 1F6FD:x 1F700:p 1F777:x 1F77B:p 1F7DA:x 1F7E0:p 1F7EC:x
1F7F0:p 1F7F1:x 1F800:p 1F80C:x 1F810:p 1F848:x 1F850:p 1F85A:x 1F860:p 1F888:x 1F890:p 1F8AE:x
1F8B0:p 1F8B2:x 1F900:p 1FA54:x 1FA60:p 1FA6E:x 1FA70:p 1FA7D:x 1FA80:p 1FA89:x 1FA90:p 1FABE:x
1FABF:p 1FAC6:x 1FACE:p 1FADC:x 1FAE0:p 1FAE9:x 1FAF0:p 1FAF9:x 1FB00:p 1FB93:x 1FB94:p 1FBCB:x
1FBF0:p 1FBFA:x 20000:p 2A6E0:x 2A700:p 2B73A:x 2B740:p 2B81E:x 2B820:p 2CEA2:x 2CEB0:p 2EBE1:x
2F800:p 2FA1E:x 30000:p 3134B:x 31350:p 323B0:x"

/-- Whether a quoted text shows the character itself. -/
def isPrintable (c : Char) : Bool :=
  if c.toNat < 0x7F then 0x20 ≤ c.toNat else printableTable.valueAt c == "p"

end AuthorNames.Unicode
