import ChunkProxy.Unicode.Table
/-!
# Letters and numbers

The alphabetic characters (the Unicode property Alphabetic) and the numeric
ones (the general categories Nd, Nl and No), Unicode 17.  A character is
alphanumeric when it is either.  The table is kept as runs whose value is `A`
for an alphabetic character, `N` for a numeric one that is not alphabetic, and
`0` for the others.
-/

namespace ChunkProxy.Unicode

set_option autoImplicit false

/-- The runs of the letters and numbers, as text. -/
def alphanumericText : List String := [
  "0:0;30:N;3A:0;41:A;5B:0;61:A;7B:0;AA:A;AB:0;B2:N;B4:0;B5:A;B6:0;B9:N;BA:A;BB:0;BC:N;BF:0;C0:A;",
  "D7:0;D8:A;F7:0;F8:A;2C2:0;2C6:A;2D2:0;2E0:A;2E5:0;2EC:A;2ED:0;2EE:A;2EF:0;345:A;346:0;363:A;",
  "375:0;376:A;378:0;37A:A;37E:0;37F:A;380:0;386:A;387:0;388:A;38B:0;38C:A;38D:0;38E:A;3A2:0;3A3:A;",
  "3F6:0;3F7:A;482:0;48A:A;530:0;531:A;557:0;559:A;55A:0;560:A;589:0;5B0:A;5BE:0;5BF:A;5C0:0;5C1:A;",
  "5C3:0;5C4:A;5C6:0;5C7:A;5C8:0;5D0:A;5EB:0;5EF:A;5F3:0;610:A;61B:0;620:A;658:0;659:A;660:N;66A:0;",
  "66E:A;6D4:0;6D5:A;6DD:0;6E1:A;6E9:0;6ED:A;6F0:N;6FA:A;6FD:0;6FF:A;700:0;710:A;740:0;74D:A;7B2:0;",
  "7C0:N;7CA:A;7EB:0;7F4:A;7F6:0;7FA:A;7FB:0;800:A;818:0;81A:A;82D:0;840:A;859:0;860:A;86B:0;870:A;",
  "888:0;889:A;890:0;897:A;898:0;8A0:A;8CA:0;8D4:A;8E0:0;8E3:A;8EA:0;8F0:A;93C:0;93D:A;94D:0;94E:A;",
  "951:0;955:A;964:0;966:N;970:0;971:A;984:0;985:A;98D:0;98F:A;991:0;993:A;9A9:0;9AA:A;9B1:0;9B2:A;",
  "9B3:0;9B6:A;9BA:0;9BD:A;9C5:0;9C7:A;9C9:0;9CB:A;9CD:0;9CE:A;9CF:0;9D7:A;9D8:0;9DC:A;9DE:0;9DF:A;",
  "9E4:0;9E6:N;9F0:A;9F2:0;9F4:N;9FA:0;9FC:A;9FD:0;A01:A;A04:0;A05:A;A0B:0;A0F:A;A11:0;A13:A;A29:0;",
  "A2A:A;A31:0;A32:A;A34:0;A35:A;A37:0;A38:A;A3A:0;A3E:A;A43:0;A47:A;A49:0;A4B:A;A4D:0;A51:A;A52:0;",
  "A59:A;A5D:0;A5E:A;A5F:0;A66:N;A70:A;A76:0;A81:A;A84:0;A85:A;A8E:0;A8F:A;A92:0;A93:A;AA9:0;AAA:A;",
  "AB1:0;AB2:A;AB4:0;AB5:A;ABA:0;ABD:A;AC6:0;AC7:A;ACA:0;ACB:A;ACD:0;AD0:A;AD1:0;AE0:A;AE4:0;AE6:N;",
  "AF0:0;AF9:A;AFD:0;B01:A;B04:0;B05:A;B0D:0;B0F:A;B11:0;B13:A;B29:0;B2A:A;B31:0;B32:A;B34:0;B35:A;",
  "B3A:0;B3D:A;B45:0;B47:A;B49:0;B4B:A;B4D:0;B56:A;B58:0;B5C:A;B5E:0;B5F:A;B64:0;B66:N;B70:0;B71:A;",
  "B72:N;B78:0;B82:A;B84:0;B85:A;B8B:0;B8E:A;B91:0;B92:A;B96:0;B99:A;B9B:0;B9C:A;B9D:0;B9E:A;BA0:0;",
  "BA3:A;BA5:0;BA8:A;BAB:0;BAE:A;BBA:0;BBE:A;BC3:0;BC6:A;BC9:0;BCA:A;BCD:0;BD0:A;BD1:0;BD7:A;BD8:0;",
  "BE6:N;BF3:0;C00:A;C0D:0;C0E:A;C11:0;C12:A;C29:0;C2A:A;C3A:0;C3D:A;C45:0;C46:A;C49:0;C4A:A;C4D:0;",
  "C55:A;C57:0;C58:A;C5B:0;C5C:A;C5E:0;C60:A;C64:0;C66:N;C70:0;C78:N;C7F:0;C80:A;C84:0;C85:A;C8D:0;",
  "C8E:A;C91:0;C92:A;CA9:0;CAA:A;CB4:0;CB5:A;CBA:0;CBD:A;CC5:0;CC6:A;CC9:0;CCA:A;CCD:0;CD5:A;CD7:0;",
  "CDC:A;CDF:0;CE0:A;CE4:0;CE6:N;CF0:0;CF1:A;CF4:0;D00:A;D0D:0;D0E:A;D11:0;D12:A;D3B:0;D3D:A;D45:0;",
  "D46:A;D49:0;D4A:A;D4D:0;D4E:A;D4F:0;D54:A;D58:N;D5F:A;D64:0;D66:N;D79:0;D7A:A;D80:0;D81:A;D84:0;",
  "D85:A;D97:0;D9A:A;DB2:0;DB3:A;DBC:0;DBD:A;DBE:0;DC0:A;DC7:0;DCF:A;DD5:0;DD6:A;DD7:0;DD8:A;DE0:0;",
  "DE6:N;DF0:0;DF2:A;DF4:0;E01:A;E3B:0;E40:A;E47:0;E4D:A;E4E:0;E50:N;E5A:0;E81:A;E83:0;E84:A;E85:0;",
  "E86:A;E8B:0;E8C:A;EA4:0;EA5:A;EA6:0;EA7:A;EBA:0;EBB:A;EBE:0;EC0:A;EC5:0;EC6:A;EC7:0;ECD:A;ECE:0;",
  "ED0:N;EDA:0;EDC:A;EE0:0;F00:A;F01:0;F20:N;F34:0;F40:A;F48:0;F49:A;F6D:0;F71:A;F84:0;F88:A;F98:0;",
  "F99:A;FBD:0;1000:A;1037:0;1038:A;1039:0;103B:A;1040:N;104A:0;1050:A;1090:N;109A:A;109E:0;10A0:A;",
  "10C6:0;10C7:A;10C8:0;10CD:A;10CE:0;10D0:A;10FB:0;10FC:A;1249:0;124A:A;124E:0;1250:A;1257:0;",
  "1258:A;1259:0;125A:A;125E:0;1260:A;1289:0;128A:A;128E:0;1290:A;12B1:0;12B2:A;12B6:0;12B8:A;",
  "12BF:0;12C0:A;12C1:0;12C2:A;12C6:0;12C8:A;12D7:0;12D8:A;1311:0;1312:A;1316:0;1318:A;135B:0;",
  "1369:N;137D:0;1380:A;1390:0;13A0:A;13F6:0;13F8:A;13FE:0;1401:A;166D:0;166F:A;1680:0;1681:A;",
  "169B:0;16A0:A;16EB:0;16EE:A;16F9:0;1700:A;1714:0;171F:A;1734:0;1740:A;1754:0;1760:A;176D:0;",
  "176E:A;1771:0;1772:A;1774:0;1780:A;17B4:0;17B6:A;17C9:0;17D7:A;17D8:0;17DC:A;17DD:0;17E0:N;",
  "17EA:0;17F0:N;17FA:0;1810:N;181A:0;1820:A;1879:0;1880:A;18AB:0;18B0:A;18F6:0;1900:A;191F:0;",
  "1920:A;192C:0;1930:A;1939:0;1946:N;1950:A;196E:0;1970:A;1975:0;1980:A;19AC:0;19B0:A;19CA:0;",
  "19D0:N;19DB:0;1A00:A;1A1C:0;1A20:A;1A5F:0;1A61:A;1A75:0;1A80:N;1A8A:0;1A90:N;1A9A:0;1AA7:A;",
  "1AA8:0;1ABF:A;1AC1:0;1ACC:A;1ACF:0;1B00:A;1B34:0;1B35:A;1B44:0;1B45:A;1B4D:0;1B50:N;1B5A:0;",
  "1B80:A;1BAA:0;1BAC:A;1BB0:N;1BBA:A;1BE6:0;1BE7:A;1BF2:0;1C00:A;1C37:0;1C40:N;1C4A:0;1C4D:A;",
  "1C50:N;1C5A:A;1C7E:0;1C80:A;1C8B:0;1C90:A;1CBB:0;1CBD:A;1CC0:0;1CE9:A;1CED:0;1CEE:A;1CF4:0;",
  "1CF5:A;1CF7:0;1CFA:A;1CFB:0;1D00:A;1DC0:0;1DD3:A;1DF5:0;1E00:A;1F16:0;1F18:A;1F1E:0;1F20:A;",
  "1F46:0;1F48:A;1F4E:0;1F50:A;1F58:0;1F59:A;1F5A:0;1F5B:A;1F5C:0;1F5D:A;1F5E:0;1F5F:A;1F7E:0;",
  "1F80:A;1FB5:0;1FB6:A;1FBD:0;1FBE:A;1FBF:0;1FC2:A;1FC5:0;1FC6:A;1FCD:0;1FD0:A;1FD4:0;1FD6:A;",
  "1FDC:0;1FE0:A;1FED:0;1FF2:A;1FF5:0;1FF6:A;1FFD:0;2070:N;2071:A;2072:0;2074:N;207A:0;207F:A;",
  "2080:N;208A:0;2090:A;209D:0;2102:A;2103:0;2107:A;2108:0;210A:A;2114:0;2115:A;2116:0;2119:A;",
  "211E:0;2124:A;2125:0;2126:A;2127:0;2128:A;2129:0;212A:A;212E:0;212F:A;213A:0;213C:A;2140:0;",
  "2145:A;214A:0;214E:A;214F:0;2150:N;2160:A;2189:N;218A:0;2460:N;249C:0;24B6:A;24EA:N;2500:0;",
  "2776:N;2794:0;2C00:A;2CE5:0;2CEB:A;2CEF:0;2CF2:A;2CF4:0;2CFD:N;2CFE:0;2D00:A;2D26:0;2D27:A;",
  "2D28:0;2D2D:A;2D2E:0;2D30:A;2D68:0;2D6F:A;2D70:0;2D80:A;2D97:0;2DA0:A;2DA7:0;2DA8:A;2DAF:0;",
  "2DB0:A;2DB7:0;2DB8:A;2DBF:0;2DC0:A;2DC7:0;2DC8:A;2DCF:0;2DD0:A;2DD7:0;2DD8:A;2DDF:0;2DE0:A;",
  "2E00:0;2E2F:A;2E30:0;3005:A;3008:0;3021:A;302A:0;3031:A;3036:0;3038:A;303D:0;3041:A;3097:0;",
  "309D:A;30A0:0;30A1:A;30FB:0;30FC:A;3100:0;3105:A;3130:0;3131:A;318F:0;3192:N;3196:0;31A0:A;",
  "31C0:0;31F0:A;3200:0;3220:N;322A:0;3248:N;3250:0;3251:N;3260:0;3280:N;328A:0;32B1:N;32C0:0;",
  "3400:A;4DC0:0;4E00:A;A48D:0;A4D0:A;A4FE:0;A500:A;A60D:0;A610:A;A620:N;A62A:A;A62C:0;A640:A;",
  "A66F:0;A674:A;A67C:0;A67F:A;A6F0:0;A717:A;A720:0;A722:A;A789:0;A78B:A;A7DD:0;A7F1:A;A806:0;",
  "A807:A;A828:0;A830:N;A836:0;A840:A;A874:0;A880:A;A8C4:0;A8C5:A;A8C6:0;A8D0:N;A8DA:0;A8F2:A;",
  "A8F8:0;A8FB:A;A8FC:0;A8FD:A;A900:N;A90A:A;A92B:0;A930:A;A953:0;A960:A;A97D:0;A980:A;A9B3:0;",
  "A9B4:A;A9C0:0;A9CF:A;A9D0:N;A9DA:0;A9E0:A;A9F0:N;A9FA:A;A9FF:0;AA00:A;AA37:0;AA40:A;AA4E:0;",
  "AA50:N;AA5A:0;AA60:A;AA77:0;AA7A:A;AABF:0;AAC0:A;AAC1:0;AAC2:A;AAC3:0;AADB:A;AADE:0;AAE0:A;",
  "AAF0:0;AAF2:A;AAF6:0;AB01:A;AB07:0;AB09:A;AB0F:0;AB11:A;AB17:0;AB20:A;AB27:0;AB28:A;AB2F:0;",
  "AB30:A;AB5B:0;AB5C:A;AB6A:0;AB70:A;ABEB:0;ABF0:N;ABFA:0;AC00:A;D7A4:0;D7B0:A;D7C7:0;D7CB:A;",
  "D7FC:0;F900:A;FA6E:0;FA70:A;FADA:0;FB00:A;FB07:0;FB13:A;FB18:0;FB1D:A;FB29:0;FB2A:A;FB37:0;",
  "FB38:A;FB3D:0;FB3E:A;FB3F:0;FB40:A;FB42:0;FB43:A;FB45:0;FB46:A;FBB2:0;FBD3:A;FD3E:0;FD50:A;",
  "FD90:0;FD92:A;FDC8:0;FDF0:A;FDFC:0;FE70:A;FE75:0;FE76:A;FEFD:0;FF10:N;FF1A:0;FF21:A;FF3B:0;",
  "FF41:A;FF5B:0;FF66:A;FFBF:0;FFC2:A;FFC8:0;FFCA:A;FFD0:0;FFD2:A;FFD8:0;FFDA:A;FFDD:0;10000:A;",
  "1000C:0;1000D:A;10027:0;10028:A;1003B:0;1003C:A;1003E:0;1003F:A;1004E:0;10050:A;1005E:0;10080:A;",
  "100FB:0;10107:N;10134:0;10140:A;10175:N;10179:0;1018A:N;1018C:0;10280:A;1029D:0;102A0:A;102D1:0;",
  "102E1:N;102FC:0;10300:A;10320:N;10324:0;1032D:A;1034B:0;10350:A;1037B:0;10380:A;1039E:0;103A0:A;",
  "103C4:0;103C8:A;103D0:0;103D1:A;103D6:0;10400:A;1049E:0;104A0:N;104AA:0;104B0:A;104D4:0;104D8:A;",
  "104FC:0;10500:A;10528:0;10530:A;10564:0;10570:A;1057B:0;1057C:A;1058B:0;1058C:A;10593:0;10594:A;",
  "10596:0;10597:A;105A2:0;105A3:A;105B2:0;105B3:A;105BA:0;105BB:A;105BD:0;105C0:A;105F4:0;10600:A;",
  "10737:0;10740:A;10756:0;10760:A;10768:0;10780:A;10786:0;10787:A;107B1:0;107B2:A;107BB:0;10800:A;",
  "10806:0;10808:A;10809:0;1080A:A;10836:0;10837:A;10839:0;1083C:A;1083D:0;1083F:A;10856:0;10858:N;",
  "10860:A;10877:0;10879:N;10880:A;1089F:0;108A7:N;108B0:0;108E0:A;108F3:0;108F4:A;108F6:0;108FB:N;",
  "10900:A;10916:N;1091C:0;10920:A;1093A:0;10940:A;1095A:0;10980:A;109B8:0;109BC:N;109BE:A;109C0:N;",
  "109D0:0;109D2:N;10A00:A;10A04:0;10A05:A;10A07:0;10A0C:A;10A14:0;10A15:A;10A18:0;10A19:A;10A36:0;",
  "10A40:N;10A49:0;10A60:A;10A7D:N;10A7F:0;10A80:A;10A9D:N;10AA0:0;10AC0:A;10AC8:0;10AC9:A;10AE5:0;",
  "10AEB:N;10AF0:0;10B00:A;10B36:0;10B40:A;10B56:0;10B58:N;10B60:A;10B73:0;10B78:N;10B80:A;10B92:0;",
  "10BA9:N;10BB0:0;10C00:A;10C49:0;10C80:A;10CB3:0;10CC0:A;10CF3:0;10CFA:N;10D00:A;10D28:0;10D30:N;",
  "10D3A:0;10D40:N;10D4A:A;10D66:0;10D69:A;10D6A:0;10D6F:A;10D86:0;10E60:N;10E7F:0;10E80:A;10EAA:0;",
  "10EAB:A;10EAD:0;10EB0:A;10EB2:0;10EC2:A;10EC8:0;10EFA:A;10EFD:0;10F00:A;10F1D:N;10F27:A;10F28:0;",
  "10F30:A;10F46:0;10F51:N;10F55:0;10F70:A;10F82:0;10FB0:A;10FC5:N;10FCC:0;10FE0:A;10FF7:0;11000:A;",
  "11046:0;11052:N;11070:0;11071:A;11076:0;11080:A;110B9:0;110C2:A;110C3:0;110D0:A;110E9:0;110F0:N;",
  "110FA:0;11100:A;11133:0;11136:N;11140:0;11144:A;11148:0;11150:A;11173:0;11176:A;11177:0;11180:A;",
  "111C0:0;111C1:A;111C5:0;111CE:A;111D0:N;111DA:A;111DB:0;111DC:A;111DD:0;111E1:N;111F5:0;11200:A;",
  "11212:0;11213:A;11235:0;11237:A;11238:0;1123E:A;11242:0;11280:A;11287:0;11288:A;11289:0;1128A:A;",
  "1128E:0;1128F:A;1129E:0;1129F:A;112A9:0;112B0:A;112E9:0;112F0:N;112FA:0;11300:A;11304:0;11305:A;",
  "1130D:0;1130F:A;11311:0;11313:A;11329:0;1132A:A;11331:0;11332:A;11334:0;11335:A;1133A:0;1133D:A;",
  "11345:0;11347:A;11349:0;1134B:A;1134D:0;11350:A;11351:0;11357:A;11358:0;1135D:A;11364:0;11380:A;",
  "1138A:0;1138B:A;1138C:0;1138E:A;1138F:0;11390:A;113B6:0;113B7:A;113C1:0;113C2:A;113C3:0;113C5:A;",
  "113C6:0;113C7:A;113CB:0;113CC:A;113CE:0;113D1:A;113D2:0;113D3:A;113D4:0;11400:A;11442:0;11443:A;",
  "11446:0;11447:A;1144B:0;11450:N;1145A:0;1145F:A;11462:0;11480:A;114C2:0;114C4:A;114C6:0;114C7:A;",
  "114C8:0;114D0:N;114DA:0;11580:A;115B6:0;115B8:A;115BF:0;115D8:A;115DE:0;11600:A;1163F:0;11640:A;",
  "11641:0;11644:A;11645:0;11650:N;1165A:0;11680:A;116B6:0;116B8:A;116B9:0;116C0:N;116CA:0;116D0:N;",
  "116E4:0;11700:A;1171B:0;1171D:A;1172B:0;11730:N;1173C:0;11740:A;11747:0;11800:A;11839:0;118A0:A;",
  "118E0:N;118F3:0;118FF:A;11907:0;11909:A;1190A:0;1190C:A;11914:0;11915:A;11917:0;11918:A;11936:0;",
  "11937:A;11939:0;1193B:A;1193D:0;1193F:A;11943:0;11950:N;1195A:0;119A0:A;119A8:0;119AA:A;119D8:0;",
  "119DA:A;119E0:0;119E1:A;119E2:0;119E3:A;119E5:0;11A00:A;11A33:0;11A35:A;11A3F:0;11A50:A;11A98:0;",
  "11A9D:A;11A9E:0;11AB0:A;11AF9:0;11B60:A;11B68:0;11BC0:A;11BE1:0;11BF0:N;11BFA:0;11C00:A;11C09:0;",
  "11C0A:A;11C37:0;11C38:A;11C3F:0;11C40:A;11C41:0;11C50:N;11C6D:0;11C72:A;11C90:0;11C92:A;11CA8:0;",
  "11CA9:A;11CB7:0;11D00:A;11D07:0;11D08:A;11D0A:0;11D0B:A;11D37:0;11D3A:A;11D3B:0;11D3C:A;11D3E:0;",
  "11D3F:A;11D42:0;11D43:A;11D44:0;11D46:A;11D48:0;11D50:N;11D5A:0;11D60:A;11D66:0;11D67:A;11D69:0;",
  "11D6A:A;11D8F:0;11D90:A;11D92:0;11D93:A;11D97:0;11D98:A;11D99:0;11DA0:N;11DAA:0;11DB0:A;11DDC:0;",
  "11DE0:N;11DEA:0;11EE0:A;11EF7:0;11F00:A;11F11:0;11F12:A;11F3B:0;11F3E:A;11F41:0;11F50:N;11F5A:0;",
  "11FB0:A;11FB1:0;11FC0:N;11FD5:0;12000:A;1239A:0;12400:A;1246F:0;12480:A;12544:0;12F90:A;12FF1:0;",
  "13000:A;13430:0;13441:A;13447:0;13460:A;143FB:0;14400:A;14647:0;16100:A;1612F:0;16130:N;1613A:0;",
  "16800:A;16A39:0;16A40:A;16A5F:0;16A60:N;16A6A:0;16A70:A;16ABF:0;16AC0:N;16ACA:0;16AD0:A;16AEE:0;",
  "16B00:A;16B30:0;16B40:A;16B44:0;16B50:N;16B5A:0;16B5B:N;16B62:0;16B63:A;16B78:0;16B7D:A;16B90:0;",
  "16D40:A;16D6D:0;16D70:N;16D7A:0;16E40:A;16E80:N;16E97:0;16EA0:A;16EB9:0;16EBB:A;16ED4:0;16F00:A;",
  "16F4B:0;16F4F:A;16F88:0;16F8F:A;16FA0:0;16FE0:A;16FE2:0;16FE3:A;16FE4:0;16FF0:A;16FF7:0;17000:A;",
  "18CD6:0;18CFF:A;18D1F:0;18D80:A;18DF3:0;1AFF0:A;1AFF4:0;1AFF5:A;1AFFC:0;1AFFD:A;1AFFF:0;1B000:A;",
  "1B123:0;1B132:A;1B133:0;1B150:A;1B153:0;1B155:A;1B156:0;1B164:A;1B168:0;1B170:A;1B2FC:0;1BC00:A;",
  "1BC6B:0;1BC70:A;1BC7D:0;1BC80:A;1BC89:0;1BC90:A;1BC9A:0;1BC9E:A;1BC9F:0;1CCF0:N;1CCFA:0;1D2C0:N;",
  "1D2D4:0;1D2E0:N;1D2F4:0;1D360:N;1D379:0;1D400:A;1D455:0;1D456:A;1D49D:0;1D49E:A;1D4A0:0;1D4A2:A;",
  "1D4A3:0;1D4A5:A;1D4A7:0;1D4A9:A;1D4AD:0;1D4AE:A;1D4BA:0;1D4BB:A;1D4BC:0;1D4BD:A;1D4C4:0;1D4C5:A;",
  "1D506:0;1D507:A;1D50B:0;1D50D:A;1D515:0;1D516:A;1D51D:0;1D51E:A;1D53A:0;1D53B:A;1D53F:0;1D540:A;",
  "1D545:0;1D546:A;1D547:0;1D54A:A;1D551:0;1D552:A;1D6A6:0;1D6A8:A;1D6C1:0;1D6C2:A;1D6DB:0;1D6DC:A;",
  "1D6FB:0;1D6FC:A;1D715:0;1D716:A;1D735:0;1D736:A;1D74F:0;1D750:A;1D76F:0;1D770:A;1D789:0;1D78A:A;",
  "1D7A9:0;1D7AA:A;1D7C3:0;1D7C4:A;1D7CC:0;1D7CE:N;1D800:0;1DF00:A;1DF1F:0;1DF25:A;1DF2B:0;1E000:A;",
  "1E007:0;1E008:A;1E019:0;1E01B:A;1E022:0;1E023:A;1E025:0;1E026:A;1E02B:0;1E030:A;1E06E:0;1E08F:A;",
  "1E090:0;1E100:A;1E12D:0;1E137:A;1E13E:0;1E140:N;1E14A:0;1E14E:A;1E14F:0;1E290:A;1E2AE:0;1E2C0:A;",
  "1E2EC:0;1E2F0:N;1E2FA:0;1E4D0:A;1E4EC:0;1E4F0:N;1E4FA:0;1E5D0:A;1E5EE:0;1E5F0:A;1E5F1:N;1E5FB:0;",
  "1E6C0:A;1E6DF:0;1E6E0:A;1E6F6:0;1E6FE:A;1E700:0;1E7E0:A;1E7E7:0;1E7E8:A;1E7EC:0;1E7ED:A;1E7EF:0;",
  "1E7F0:A;1E7FF:0;1E800:A;1E8C5:0;1E8C7:N;1E8D0:0;1E900:A;1E944:0;1E947:A;1E948:0;1E94B:A;1E94C:0;",
  "1E950:N;1E95A:0;1EC71:N;1ECAC:0;1ECAD:N;1ECB0:0;1ECB1:N;1ECB5:0;1ED01:N;1ED2E:0;1ED2F:N;1ED3E:0;",
  "1EE00:A;1EE04:0;1EE05:A;1EE20:0;1EE21:A;1EE23:0;1EE24:A;1EE25:0;1EE27:A;1EE28:0;1EE29:A;1EE33:0;",
  "1EE34:A;1EE38:0;1EE39:A;1EE3A:0;1EE3B:A;1EE3C:0;1EE42:A;1EE43:0;1EE47:A;1EE48:0;1EE49:A;1EE4A:0;",
  "1EE4B:A;1EE4C:0;1EE4D:A;1EE50:0;1EE51:A;1EE53:0;1EE54:A;1EE55:0;1EE57:A;1EE58:0;1EE59:A;1EE5A:0;",
  "1EE5B:A;1EE5C:0;1EE5D:A;1EE5E:0;1EE5F:A;1EE60:0;1EE61:A;1EE63:0;1EE64:A;1EE65:0;1EE67:A;1EE6B:0;",
  "1EE6C:A;1EE73:0;1EE74:A;1EE78:0;1EE79:A;1EE7D:0;1EE7E:A;1EE7F:0;1EE80:A;1EE8A:0;1EE8B:A;1EE9C:0;",
  "1EEA1:A;1EEA4:0;1EEA5:A;1EEAA:0;1EEAB:A;1EEBC:0;1F100:N;1F10D:0;1F130:A;1F14A:0;1F150:A;1F16A:0;",
  "1F170:A;1F18A:0;1FBF0:N;1FBFA:0;20000:A;2A6E0:0;2A700:A;2B81E:0;2B820:A;2CEAE:0;2CEB0:A;2EBE1:0;",
  "2EBF0:A;2EE5E:0;2F800:A;2FA1E:0;30000:A;3134B:0;31350:A;3347A:0;"]

/-- The kind of a character as far as letters and numbers go. -/
inductive WordKind where
  | alphabetic
  | numeric
  | other
  deriving DecidableEq, Repr

/-- Reads the value of a run. -/
def WordKind.read : String → WordKind
  | "A" => .alphabetic
  | "N" => .numeric
  | _ => .other

/-- The table of letters and numbers. -/
def wordKinds : RunTable WordKind :=
  RunTable.ofText WordKind.read .other alphanumericText

/-- Whether a character is alphabetic. -/
def isAlphabetic (c : Char) : Bool := wordKinds.get c.toNat == .alphabetic

/-- Whether a character is alphabetic or numeric. -/
def isAlphanumeric (c : Char) : Bool := wordKinds.get c.toNat != .other

end ChunkProxy.Unicode
