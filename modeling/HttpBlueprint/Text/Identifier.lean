import HttpBlueprint.Text.CodeTable
/-!
# Identifier characters

The characters that may start an identifier (XID_Start, and the underscore) and
those that may continue one (XID_Continue), as Unicode defines them for
identifiers of programming languages.
-/

namespace HttpBlueprint.Identifier

/-- The ranges of characters that may start an identifier (`s`) and others (`o`). -/
def startText : String :=
  " ".intercalate [
  "0=o 41=s 5b=o 61=s 7b=o aa=s ab=o b5=s b6=o ba=s bb=o c0=s d7=o d8=s f7=o f8=s 2c2=o 2c6=s 2d2=o",
  "2e0=s 2e5=o 2ec=s 2ed=o 2ee=s 2ef=o 370=s 375=o 376=s 378=o 37b=s 37e=o 37f=s 380=o 386=s 387=o",
  "388=s 38b=o 38c=s 38d=o 38e=s 3a2=o 3a3=s 3f6=o 3f7=s 482=o 48a=s 530=o 531=s 557=o 559=s 55a=o",
  "560=s 589=o 5d0=s 5eb=o 5ef=s 5f3=o 620=s 64b=o 66e=s 670=o 671=s 6d4=o 6d5=s 6d6=o 6e5=s 6e7=o",
  "6ee=s 6f0=o 6fa=s 6fd=o 6ff=s 700=o 710=s 711=o 712=s 730=o 74d=s 7a6=o 7b1=s 7b2=o 7ca=s 7eb=o",
  "7f4=s 7f6=o 7fa=s 7fb=o 800=s 816=o 81a=s 81b=o 824=s 825=o 828=s 829=o 840=s 859=o 860=s 86b=o",
  "870=s 888=o 889=s 890=o 8a0=s 8ca=o 904=s 93a=o 93d=s 93e=o 950=s 951=o 958=s 962=o 971=s 981=o",
  "985=s 98d=o 98f=s 991=o 993=s 9a9=o 9aa=s 9b1=o 9b2=s 9b3=o 9b6=s 9ba=o 9bd=s 9be=o 9ce=s 9cf=o",
  "9dc=s 9de=o 9df=s 9e2=o 9f0=s 9f2=o 9fc=s 9fd=o a05=s a0b=o a0f=s a11=o a13=s a29=o a2a=s a31=o",
  "a32=s a34=o a35=s a37=o a38=s a3a=o a59=s a5d=o a5e=s a5f=o a72=s a75=o a85=s a8e=o a8f=s a92=o",
  "a93=s aa9=o aaa=s ab1=o ab2=s ab4=o ab5=s aba=o abd=s abe=o ad0=s ad1=o ae0=s ae2=o af9=s afa=o",
  "b05=s b0d=o b0f=s b11=o b13=s b29=o b2a=s b31=o b32=s b34=o b35=s b3a=o b3d=s b3e=o b5c=s b5e=o",
  "b5f=s b62=o b71=s b72=o b83=s b84=o b85=s b8b=o b8e=s b91=o b92=s b96=o b99=s b9b=o b9c=s b9d=o",
  "b9e=s ba0=o ba3=s ba5=o ba8=s bab=o bae=s bba=o bd0=s bd1=o c05=s c0d=o c0e=s c11=o c12=s c29=o",
  "c2a=s c3a=o c3d=s c3e=o c58=s c5b=o c5c=s c5e=o c60=s c62=o c80=s c81=o c85=s c8d=o c8e=s c91=o",
  "c92=s ca9=o caa=s cb4=o cb5=s cba=o cbd=s cbe=o cdc=s cdf=o ce0=s ce2=o cf1=s cf3=o d04=s d0d=o",
  "d0e=s d11=o d12=s d3b=o d3d=s d3e=o d4e=s d4f=o d54=s d57=o d5f=s d62=o d7a=s d80=o d85=s d97=o",
  "d9a=s db2=o db3=s dbc=o dbd=s dbe=o dc0=s dc7=o e01=s e31=o e32=s e33=o e40=s e47=o e81=s e83=o",
  "e84=s e85=o e86=s e8b=o e8c=s ea4=o ea5=s ea6=o ea7=s eb1=o eb2=s eb3=o ebd=s ebe=o ec0=s ec5=o",
  "ec6=s ec7=o edc=s ee0=o f00=s f01=o f40=s f48=o f49=s f6d=o f88=s f8d=o 1000=s 102b=o 103f=s",
  "1040=o 1050=s 1056=o 105a=s 105e=o 1061=s 1062=o 1065=s 1067=o 106e=s 1071=o 1075=s 1082=o",
  "108e=s 108f=o 10a0=s 10c6=o 10c7=s 10c8=o 10cd=s 10ce=o 10d0=s 10fb=o 10fc=s 1249=o 124a=s",
  "124e=o 1250=s 1257=o 1258=s 1259=o 125a=s 125e=o 1260=s 1289=o 128a=s 128e=o 1290=s 12b1=o",
  "12b2=s 12b6=o 12b8=s 12bf=o 12c0=s 12c1=o 12c2=s 12c6=o 12c8=s 12d7=o 12d8=s 1311=o 1312=s",
  "1316=o 1318=s 135b=o 1380=s 1390=o 13a0=s 13f6=o 13f8=s 13fe=o 1401=s 166d=o 166f=s 1680=o",
  "1681=s 169b=o 16a0=s 16eb=o 16ee=s 16f9=o 1700=s 1712=o 171f=s 1732=o 1740=s 1752=o 1760=s",
  "176d=o 176e=s 1771=o 1780=s 17b4=o 17d7=s 17d8=o 17dc=s 17dd=o 1820=s 1879=o 1880=s 18a9=o",
  "18aa=s 18ab=o 18b0=s 18f6=o 1900=s 191f=o 1950=s 196e=o 1970=s 1975=o 1980=s 19ac=o 19b0=s",
  "19ca=o 1a00=s 1a17=o 1a20=s 1a55=o 1aa7=s 1aa8=o 1b05=s 1b34=o 1b45=s 1b4d=o 1b4e=s 1b50=o",
  "1b7f=s 1b80=o 1b83=s 1ba1=o 1bae=s 1bb0=o 1bba=s 1be6=o 1c00=s 1c24=o 1c4d=s 1c50=o 1c5a=s",
  "1c7e=o 1c80=s 1c8b=o 1c90=s 1cbb=o 1cbd=s 1cc0=o 1ce9=s 1ced=o 1cee=s 1cf4=o 1cf5=s 1cf7=o",
  "1cfa=s 1cfb=o 1d00=s 1dc0=o 1e00=s 1f16=o 1f18=s 1f1e=o 1f20=s 1f46=o 1f48=s 1f4e=o 1f50=s",
  "1f58=o 1f59=s 1f5a=o 1f5b=s 1f5c=o 1f5d=s 1f5e=o 1f5f=s 1f7e=o 1f80=s 1fb5=o 1fb6=s 1fbd=o",
  "1fbe=s 1fbf=o 1fc2=s 1fc5=o 1fc6=s 1fcd=o 1fd0=s 1fd4=o 1fd6=s 1fdc=o 1fe0=s 1fed=o 1ff2=s",
  "1ff5=o 1ff6=s 1ffd=o 2071=s 2072=o 207f=s 2080=o 2090=s 209d=o 20c1=s 20c2=o 2102=s 2103=o",
  "2107=s 2108=o 210a=s 2114=o 2115=s 2116=o 2118=s 211e=o 2124=s 2125=o 2126=s 2127=o 2128=s",
  "2129=o 212a=s 213a=o 213c=s 2140=o 2145=s 214a=o 214e=s 214f=o 2160=s 2189=o 2427=s 242a=o",
  "2b96=s 2b97=o 2c00=s 2ce5=o 2ceb=s 2cef=o 2cf2=s 2cf4=o 2d00=s 2d26=o 2d27=s 2d28=o 2d2d=s",
  "2d2e=o 2d30=s 2d68=o 2d6f=s 2d70=o 2d80=s 2d97=o 2da0=s 2da7=o 2da8=s 2daf=o 2db0=s 2db7=o",
  "2db8=s 2dbf=o 2dc0=s 2dc7=o 2dc8=s 2dcf=o 2dd0=s 2dd7=o 2dd8=s 2ddf=o 3005=s 3008=o 3021=s",
  "302a=o 3031=s 3036=o 3038=s 303d=o 3041=s 3097=o 309d=s 30a0=o 30a1=s 30fb=o 30fc=s 3100=o",
  "3105=s 3130=o 3131=s 318f=o 31a0=s 31c0=o 31e4=s 31e6=o 31f0=s 3200=o 3400=s 4dc0=o 4e00=s",
  "a48d=o a4d0=s a4fe=o a500=s a60d=o a610=s a620=o a62a=s a62c=o a640=s a66f=o a67f=s a69e=o",
  "a6a0=s a6f0=o a717=s a720=o a722=s a789=o a78b=s a7dd=o a7f1=s a802=o a803=s a806=o a807=s",
  "a80b=o a80c=s a823=o a840=s a874=o a882=s a8b4=o a8f2=s a8f8=o a8fb=s a8fc=o a8fd=s a8ff=o",
  "a90a=s a926=o a930=s a947=o a960=s a97d=o a984=s a9b3=o a9cf=s a9d0=o a9e0=s a9e5=o a9e6=s",
  "a9f0=o a9fa=s a9ff=o aa00=s aa29=o aa40=s aa43=o aa44=s aa4c=o aa60=s aa77=o aa7a=s aa7b=o",
  "aa7e=s aab0=o aab1=s aab2=o aab5=s aab7=o aab9=s aabe=o aac0=s aac1=o aac2=s aac3=o aadb=s",
  "aade=o aae0=s aaeb=o aaf2=s aaf5=o ab01=s ab07=o ab09=s ab0f=o ab11=s ab17=o ab20=s ab27=o",
  "ab28=s ab2f=o ab30=s ab5b=o ab5c=s ab6a=o ab70=s abe3=o ac00=s d7a4=o d7b0=s d7c7=o d7cb=s",
  "d7fc=o f900=s fa6e=o fa70=s fada=o fb00=s fb07=o fb13=s fb18=o fb1d=s fb1e=o fb1f=s fb29=o",
  "fb2a=s fb37=o fb38=s fb3d=o fb3e=s fb3f=o fb40=s fb42=o fb43=s fb45=o fb46=s fbb2=o fbc3=s",
  "fc5e=o fc64=s fd3e=o fd50=s fdcf=o fdf0=s fdfa=o fe71=s fe72=o fe73=s fe74=o fe77=s fe78=o",
  "fe79=s fe7a=o fe7b=s fe7c=o fe7d=s fe7e=o fe7f=s fefd=o ff21=s ff3b=o ff41=s ff5b=o ff66=s",
  "ff9e=o ffa0=s ffbf=o ffc2=s ffc8=o ffca=s ffd0=o ffd2=s ffd8=o ffda=s ffdd=o 10000=s 1000c=o",
  "1000d=s 10027=o 10028=s 1003b=o 1003c=s 1003e=o 1003f=s 1004e=o 10050=s 1005e=o 10080=s 100fb=o",
  "10140=s 10175=o 10280=s 1029d=o 102a0=s 102d1=o 10300=s 10320=o 1032d=s 1034b=o 10350=s 10376=o",
  "10380=s 1039e=o 103a0=s 103c4=o 103c8=s 103d0=o 103d1=s 103d6=o 10400=s 1049e=o 104b0=s 104d4=o",
  "104d8=s 104fc=o 10500=s 10528=o 10530=s 10564=o 10570=s 1057b=o 1057c=s 1058b=o 1058c=s 10593=o",
  "10594=s 10596=o 10597=s 105a2=o 105a3=s 105b2=o 105b3=s 105ba=o 105bb=s 105bd=o 105c0=s 105f4=o",
  "10600=s 10737=o 10740=s 10756=o 10760=s 10768=o 10780=s 10786=o 10787=s 107b1=o 107b2=s 107bb=o",
  "10800=s 10806=o 10808=s 10809=o 1080a=s 10836=o 10837=s 10839=o 1083c=s 1083d=o 1083f=s 10856=o",
  "10860=s 10877=o 10880=s 1089f=o 108e0=s 108f3=o 108f4=s 108f6=o 10900=s 10916=o 10920=s 1093a=o",
  "10940=s 1095a=o 10980=s 109b8=o 109be=s 109c0=o 10a00=s 10a01=o 10a10=s 10a14=o 10a15=s 10a18=o",
  "10a19=s 10a36=o 10a60=s 10a7d=o 10a80=s 10a9d=o 10ac0=s 10ac8=o 10ac9=s 10ae5=o 10b00=s 10b36=o",
  "10b40=s 10b56=o 10b60=s 10b73=o 10b80=s 10b92=o 10c00=s 10c49=o 10c80=s 10cb3=o 10cc0=s 10cf3=o",
  "10d00=s 10d24=o 10d40=s 10d66=o 10d6e=s 10d86=o 10d8e=s 10d90=o 10e80=s 10eaa=o 10eb0=s 10eb2=o",
  "10ec2=s 10ec8=o 10ed0=s 10ed9=o 10f00=s 10f1d=o 10f27=s 10f28=o 10f30=s 10f46=o 10f70=s 10f82=o",
  "10fb0=s 10fc5=o 10fe0=s 10ff7=o 11003=s 11038=o 11071=s 11073=o 11075=s 11076=o 11083=s 110b0=o",
  "110d0=s 110e9=o 11103=s 11127=o 11144=s 11145=o 11147=s 11148=o 11150=s 11173=o 11176=s 11177=o",
  "11183=s 111b3=o 111c1=s 111c5=o 111da=s 111db=o 111dc=s 111dd=o 11200=s 11212=o 11213=s 1122c=o",
  "1123f=s 11241=o 11280=s 11287=o 11288=s 11289=o 1128a=s 1128e=o 1128f=s 1129e=o 1129f=s 112a9=o",
  "112b0=s 112df=o 11305=s 1130d=o 1130f=s 11311=o 11313=s 11329=o 1132a=s 11331=o 11332=s 11334=o",
  "11335=s 1133a=o 1133d=s 1133e=o 11350=s 11351=o 1135d=s 11362=o 11380=s 1138a=o 1138b=s 1138c=o",
  "1138e=s 1138f=o 11390=s 113b6=o 113b7=s 113bb=o 113c2=s 113c3=o 113c5=s 113c6=o 113c7=s 113cb=o",
  "113cc=s 113ce=o 113cf=s 113d0=o 113d1=s 113d2=o 113d3=s 113d6=o 113d7=s 113d9=o 11400=s 11435=o",
  "11447=s 1144b=o 1145f=s 11462=o 11480=s 114b0=o 114c4=s 114c6=o 114c7=s 114c8=o 11580=s 115af=o",
  "115d8=s 115dc=o 11600=s 11630=o 11644=s 11645=o 11680=s 116ab=o 116b8=s 116b9=o 116d0=s 116e4=o",
  "11700=s 1171b=o 11740=s 11747=o 11800=s 1182c=o 118a0=s 118e0=o 118ff=s 11907=o 11909=s 1190a=o",
  "1190c=s 11914=o 11915=s 11917=o 11918=s 11930=o 1193f=s 11940=o 11941=s 11942=o 119a0=s 119a8=o",
  "119aa=s 119d1=o 119e1=s 119e2=o 119e3=s 119e4=o 11a00=s 11a01=o 11a0b=s 11a33=o 11a3a=s 11a3b=o",
  "11a50=s 11a51=o 11a5c=s 11a8a=o 11a9d=s 11a9e=o 11ab0=s 11af9=o 11b61=s 11b62=o 11b65=s 11b66=o",
  "11b67=s 11b68=o 11bc0=s 11be2=o 11bf0=s 11bfa=o 11c00=s 11c09=o 11c0a=s 11c2f=o 11c40=s 11c41=o",
  "11c72=s 11c90=o 11d00=s 11d07=o 11d08=s 11d0a=o 11d0b=s 11d31=o 11d46=s 11d47=o 11d60=s 11d66=o",
  "11d67=s 11d69=o 11d6a=s 11d8a=o 11d98=s 11d99=o 11db0=s 11ddc=o 11de0=s 11dea=o 11ee0=s 11ef3=o",
  "11f02=s 11f03=o 11f04=s 11f11=o 11f12=s 11f34=o 11fb0=s 11fb1=o 12000=s 1239a=o 12400=s 1246f=o",
  "12480=s 12544=o 12f90=s 12ff1=o 13000=s 13430=o 13441=s 13447=o 13460=s 143fb=o 14400=s 14647=o",
  "16100=s 1611e=o 1612a=s 1612d=o 16130=s 1613a=o 16800=s 16a39=o 16a40=s 16a5f=o 16a70=s 16abf=o",
  "16ad0=s 16aee=o 16b00=s 16b30=o 16b40=s 16b44=o 16b63=s 16b78=o 16b7d=s 16b90=o 16d40=s 16d7a=o",
  "16e40=s 16e80=o 16ea0=s 16eb9=o 16ebb=s 16ed4=o 16f00=s 16f4b=o 16f50=s 16f51=o 16f93=s 16fa0=o",
  "16fe0=s 16fe2=o 16fe3=s 16fe4=o 16ff2=s 16ff7=o 17000=s 18cd6=o 18cff=s 18d1f=o 18d80=s 18df3=o",
  "1aff0=s 1aff4=o 1aff5=s 1affc=o 1affd=s 1afff=o 1b000=s 1b123=o 1b132=s 1b133=o 1b150=s 1b153=o",
  "1b155=s 1b156=o 1b164=s 1b168=o 1b170=s 1b2fc=o 1bc00=s 1bc6b=o 1bc70=s 1bc7d=o 1bc80=s 1bc89=o",
  "1bc90=s 1bc9a=o 1cc00=s 1ccfd=o 1cd00=s 1ceb4=o 1ceba=s 1ced1=o 1cee0=s 1cef1=o 1d400=s 1d455=o",
  "1d456=s 1d49d=o 1d49e=s 1d4a0=o 1d4a2=s 1d4a3=o 1d4a5=s 1d4a7=o 1d4a9=s 1d4ad=o 1d4ae=s 1d4ba=o",
  "1d4bb=s 1d4bc=o 1d4bd=s 1d4c4=o 1d4c5=s 1d506=o 1d507=s 1d50b=o 1d50d=s 1d515=o 1d516=s 1d51d=o",
  "1d51e=s 1d53a=o 1d53b=s 1d53f=o 1d540=s 1d545=o 1d546=s 1d547=o 1d54a=s 1d551=o 1d552=s 1d6a6=o",
  "1d6a8=s 1d6c1=o 1d6c2=s 1d6db=o 1d6dc=s 1d6fb=o 1d6fc=s 1d715=o 1d716=s 1d735=o 1d736=s 1d74f=o",
  "1d750=s 1d76f=o 1d770=s 1d789=o 1d78a=s 1d7a9=o 1d7aa=s 1d7c3=o 1d7c4=s 1d7cc=o 1df00=s 1df1f=o",
  "1df25=s 1df2b=o 1e030=s 1e06e=o 1e100=s 1e12d=o 1e137=s 1e13e=o 1e14e=s 1e14f=o 1e290=s 1e2ae=o",
  "1e2c0=s 1e2ec=o 1e4d0=s 1e4ec=o 1e5d0=s 1e5ee=o 1e5f0=s 1e5fb=o 1e5ff=s 1e600=o 1e6c0=s 1e6df=o",
  "1e6e0=s 1e6e3=o 1e6e4=s 1e6e6=o 1e6e7=s 1e6ee=o 1e6f0=s 1e6f5=o 1e6fe=s 1e700=o 1e7e0=s 1e7e7=o",
  "1e7e8=s 1e7ec=o 1e7ed=s 1e7ef=o 1e7f0=s 1e7ff=o 1e800=s 1e8c5=o 1e900=s 1e944=o 1e94b=s 1e94c=o",
  "1ee00=s 1ee04=o 1ee05=s 1ee20=o 1ee21=s 1ee23=o 1ee24=s 1ee25=o 1ee27=s 1ee28=o 1ee29=s 1ee33=o",
  "1ee34=s 1ee38=o 1ee39=s 1ee3a=o 1ee3b=s 1ee3c=o 1ee42=s 1ee43=o 1ee47=s 1ee48=o 1ee49=s 1ee4a=o",
  "1ee4b=s 1ee4c=o 1ee4d=s 1ee50=o 1ee51=s 1ee53=o 1ee54=s 1ee55=o 1ee57=s 1ee58=o 1ee59=s 1ee5a=o",
  "1ee5b=s 1ee5c=o 1ee5d=s 1ee5e=o 1ee5f=s 1ee60=o 1ee61=s 1ee63=o 1ee64=s 1ee65=o 1ee67=s 1ee6b=o",
  "1ee6c=s 1ee73=o 1ee74=s 1ee78=o 1ee79=s 1ee7d=o 1ee7e=s 1ee7f=o 1ee80=s 1ee8a=o 1ee8b=s 1ee9c=o",
  "1eea1=s 1eea4=o 1eea5=s 1eeaa=o 1eeab=s 1eebc=o 1f6d8=s 1f6d9=o 1f777=s 1f77b=o 1f8b2=s 1f8bc=o",
  "1f8c0=s 1f8c2=o 1f8d0=s 1f8d9=o 1fa54=s 1fa58=o 1fa89=s 1fa8b=o 1fa8e=s 1fa90=o 1fabe=s 1fabf=o",
  "1fac6=s 1fac7=o 1fac8=s 1fac9=o 1facd=s 1face=o 1fadc=s 1fadd=o 1fadf=s 1fae0=o 1fae9=s 1faeb=o",
  "1faef=s 1faf0=o 1fbcb=s 1fbf0=o 1fbfa=s 1fbfb=o 20000=s 2a6e0=o 2a700=s 2b81e=o 2b820=s 2ceae=o",
  "2ceb0=s 2ebe1=o 2ebf0=s 2ee5e=o 2f800=s 2fa1e=o 30000=s 3134b=o 31350=s 3347a=o"]

/-- The ranges of characters that may continue an identifier (`c`) and others (`o`). -/
def continueText : String :=
  " ".intercalate [
  "0=o 30=c 3a=o 41=c 5b=o 5f=c 60=o 61=c 7b=o aa=c ab=o b5=c b6=o b7=c b8=o ba=c bb=o c0=c d7=o",
  "d8=c f7=o f8=c 2c2=o 2c6=c 2d2=o 2e0=c 2e5=o 2ec=c 2ed=o 2ee=c 2ef=o 300=c 375=o 376=c 378=o",
  "37b=c 37e=o 37f=c 380=o 386=c 38b=o 38c=c 38d=o 38e=c 3a2=o 3a3=c 3f6=o 3f7=c 482=o 483=c 488=o",
  "48a=c 530=o 531=c 557=o 559=c 55a=o 560=c 589=o 591=c 5be=o 5bf=c 5c0=o 5c1=c 5c3=o 5c4=c 5c6=o",
  "5c7=c 5c8=o 5d0=c 5eb=o 5ef=c 5f3=o 610=c 61b=o 620=c 66a=o 66e=c 6d4=o 6d5=c 6dd=o 6df=c 6e9=o",
  "6ea=c 6fd=o 6ff=c 700=o 710=c 74b=o 74d=c 7b2=o 7c0=c 7f6=o 7fa=c 7fb=o 7fd=c 7fe=o 800=c 82e=o",
  "840=c 85c=o 860=c 86b=o 870=c 888=o 889=c 890=o 897=c 8e2=o 8e3=c 964=o 966=c 970=o 971=c 984=o",
  "985=c 98d=o 98f=c 991=o 993=c 9a9=o 9aa=c 9b1=o 9b2=c 9b3=o 9b6=c 9ba=o 9bc=c 9c5=o 9c7=c 9c9=o",
  "9cb=c 9cf=o 9d7=c 9d8=o 9dc=c 9de=o 9df=c 9e4=o 9e6=c 9f2=o 9fc=c 9fd=o 9fe=c 9ff=o a01=c a04=o",
  "a05=c a0b=o a0f=c a11=o a13=c a29=o a2a=c a31=o a32=c a34=o a35=c a37=o a38=c a3a=o a3c=c a3d=o",
  "a3e=c a43=o a47=c a49=o a4b=c a4e=o a51=c a52=o a59=c a5d=o a5e=c a5f=o a66=c a76=o a81=c a84=o",
  "a85=c a8e=o a8f=c a92=o a93=c aa9=o aaa=c ab1=o ab2=c ab4=o ab5=c aba=o abc=c ac6=o ac7=c aca=o",
  "acb=c ace=o ad0=c ad1=o ae0=c ae4=o ae6=c af0=o af9=c b00=o b01=c b04=o b05=c b0d=o b0f=c b11=o",
  "b13=c b29=o b2a=c b31=o b32=c b34=o b35=c b3a=o b3c=c b45=o b47=c b49=o b4b=c b4e=o b55=c b58=o",
  "b5c=c b5e=o b5f=c b64=o b66=c b70=o b71=c b72=o b82=c b84=o b85=c b8b=o b8e=c b91=o b92=c b96=o",
  "b99=c b9b=o b9c=c b9d=o b9e=c ba0=o ba3=c ba5=o ba8=c bab=o bae=c bba=o bbe=c bc3=o bc6=c bc9=o",
  "bca=c bce=o bd0=c bd1=o bd7=c bd8=o be6=c bf0=o c00=c c0d=o c0e=c c11=o c12=c c29=o c2a=c c3a=o",
  "c3c=c c45=o c46=c c49=o c4a=c c4e=o c55=c c57=o c58=c c5b=o c5c=c c5e=o c60=c c64=o c66=c c70=o",
  "c80=c c84=o c85=c c8d=o c8e=c c91=o c92=c ca9=o caa=c cb4=o cb5=c cba=o cbc=c cc5=o cc6=c cc9=o",
  "cca=c cce=o cd5=c cd7=o cdc=c cdf=o ce0=c ce4=o ce6=c cf0=o cf1=c cf4=o d00=c d0d=o d0e=c d11=o",
  "d12=c d45=o d46=c d49=o d4a=c d4f=o d54=c d58=o d5f=c d64=o d66=c d70=o d7a=c d80=o d81=c d84=o",
  "d85=c d97=o d9a=c db2=o db3=c dbc=o dbd=c dbe=o dc0=c dc7=o dca=c dcb=o dcf=c dd5=o dd6=c dd7=o",
  "dd8=c de0=o de6=c df0=o df2=c df4=o e01=c e3b=o e40=c e4f=o e50=c e5a=o e81=c e83=o e84=c e85=o",
  "e86=c e8b=o e8c=c ea4=o ea5=c ea6=o ea7=c ebe=o ec0=c ec5=o ec6=c ec7=o ec8=c ecf=o ed0=c eda=o",
  "edc=c ee0=o f00=c f01=o f18=c f1a=o f20=c f2a=o f35=c f36=o f37=c f38=o f39=c f3a=o f3e=c f48=o",
  "f49=c f6d=o f71=c f85=o f86=c f98=o f99=c fbd=o fc6=c fc7=o 1000=c 104a=o 1050=c 109e=o 10a0=c",
  "10c6=o 10c7=c 10c8=o 10cd=c 10ce=o 10d0=c 10fb=o 10fc=c 1249=o 124a=c 124e=o 1250=c 1257=o",
  "1258=c 1259=o 125a=c 125e=o 1260=c 1289=o 128a=c 128e=o 1290=c 12b1=o 12b2=c 12b6=o 12b8=c",
  "12bf=o 12c0=c 12c1=o 12c2=c 12c6=o 12c8=c 12d7=o 12d8=c 1311=o 1312=c 1316=o 1318=c 135b=o",
  "135d=c 1360=o 1369=c 1372=o 1380=c 1390=o 13a0=c 13f6=o 13f8=c 13fe=o 1401=c 166d=o 166f=c",
  "1680=o 1681=c 169b=o 16a0=c 16eb=o 16ee=c 16f9=o 1700=c 1716=o 171f=c 1735=o 1740=c 1754=o",
  "1760=c 176d=o 176e=c 1771=o 1772=c 1774=o 1780=c 17d4=o 17d7=c 17d8=o 17dc=c 17de=o 17e0=c",
  "17ea=o 180b=c 180e=o 180f=c 181a=o 1820=c 1879=o 1880=c 18ab=o 18b0=c 18f6=o 1900=c 191f=o",
  "1920=c 192c=o 1930=c 193c=o 1946=c 196e=o 1970=c 1975=o 1980=c 19ac=o 19b0=c 19ca=o 19d0=c",
  "19db=o 1a00=c 1a1c=o 1a20=c 1a5f=o 1a60=c 1a7d=o 1a7f=c 1a8a=o 1a90=c 1a9a=o 1aa7=c 1aa8=o",
  "1ab0=c 1abe=o 1abf=c 1ade=o 1ae0=c 1aec=o 1b00=c 1b4d=o 1b4e=c 1b5a=o 1b6b=c 1b74=o 1b7f=c",
  "1bf4=o 1c00=c 1c38=o 1c40=c 1c4a=o 1c4d=c 1c7e=o 1c80=c 1c8b=o 1c90=c 1cbb=o 1cbd=c 1cc0=o",
  "1cd0=c 1cd3=o 1cd4=c 1cfb=o 1d00=c 1f16=o 1f18=c 1f1e=o 1f20=c 1f46=o 1f48=c 1f4e=o 1f50=c",
  "1f58=o 1f59=c 1f5a=o 1f5b=c 1f5c=o 1f5d=c 1f5e=o 1f5f=c 1f7e=o 1f80=c 1fb5=o 1fb6=c 1fbd=o",
  "1fbe=c 1fbf=o 1fc2=c 1fc5=o 1fc6=c 1fcd=o 1fd0=c 1fd4=o 1fd6=c 1fdc=o 1fe0=c 1fed=o 1ff2=c",
  "1ff5=o 1ff6=c 1ffd=o 203f=c 2041=o 2054=c 2055=o 2071=c 2072=o 207f=c 2080=o 2090=c 209d=o",
  "20c1=c 20c2=o 20d0=c 20dd=o 20e1=c 20e2=o 20e5=c 20f1=o 2102=c 2103=o 2107=c 2108=o 210a=c",
  "2114=o 2115=c 2116=o 2118=c 211e=o 2124=c 2125=o 2126=c 2127=o 2128=c 2129=o 212a=c 213a=o",
  "213c=c 2140=o 2145=c 214a=o 214e=c 214f=o 2160=c 2189=o 2427=c 242a=o 2b96=c 2b97=o 2c00=c",
  "2ce5=o 2ceb=c 2cf4=o 2d00=c 2d26=o 2d27=c 2d28=o 2d2d=c 2d2e=o 2d30=c 2d68=o 2d6f=c 2d70=o",
  "2d7f=c 2d97=o 2da0=c 2da7=o 2da8=c 2daf=o 2db0=c 2db7=o 2db8=c 2dbf=o 2dc0=c 2dc7=o 2dc8=c",
  "2dcf=o 2dd0=c 2dd7=o 2dd8=c 2ddf=o 2de0=c 2e00=o 3005=c 3008=o 3021=c 3030=o 3031=c 3036=o",
  "3038=c 303d=o 3041=c 3097=o 3099=c 309b=o 309d=c 30a0=o 30a1=c 30fb=o 30fc=c 3100=o 3105=c",
  "3130=o 3131=c 318f=o 31a0=c 31c0=o 31e4=c 31e6=o 31f0=c 3200=o 3400=c 4dc0=o 4e00=c a48d=o",
  "a4d0=c a4fe=o a500=c a60d=o a610=c a62c=o a640=c a670=o a674=c a67e=o a67f=c a6f2=o a717=c",
  "a720=o a722=c a789=o a78b=c a7dd=o a7f1=c a828=o a82c=c a82d=o a840=c a874=o a880=c a8c6=o",
  "a8d0=c a8da=o a8e0=c a8f8=o a8fb=c a8fc=o a8fd=c a92e=o a930=c a954=o a960=c a97d=o a980=c",
  "a9c1=o a9cf=c a9da=o a9e0=c a9ff=o aa00=c aa37=o aa40=c aa4e=o aa50=c aa5a=o aa60=c aa77=o",
  "aa7a=c aac3=o aadb=c aade=o aae0=c aaf0=o aaf2=c aaf7=o ab01=c ab07=o ab09=c ab0f=o ab11=c",
  "ab17=o ab20=c ab27=o ab28=c ab2f=o ab30=c ab5b=o ab5c=c ab6a=o ab70=c abeb=o abec=c abee=o",
  "abf0=c abfa=o ac00=c d7a4=o d7b0=c d7c7=o d7cb=c d7fc=o f900=c fa6e=o fa70=c fada=o fb00=c",
  "fb07=o fb13=c fb18=o fb1d=c fb29=o fb2a=c fb37=o fb38=c fb3d=o fb3e=c fb3f=o fb40=c fb42=o",
  "fb43=c fb45=o fb46=c fbb2=o fbc3=c fc5e=o fc64=c fd3e=o fd50=c fdcf=o fdf0=c fdfa=o fe00=c",
  "fe10=o fe20=c fe30=o fe33=c fe35=o fe4d=c fe50=o fe71=c fe72=o fe73=c fe74=o fe77=c fe78=o",
  "fe79=c fe7a=o fe7b=c fe7c=o fe7d=c fe7e=o fe7f=c fefd=o ff10=c ff1a=o ff21=c ff3b=o ff3f=c",
  "ff40=o ff41=c ff5b=o ff66=c ffbf=o ffc2=c ffc8=o ffca=c ffd0=o ffd2=c ffd8=o ffda=c ffdd=o",
  "10000=c 1000c=o 1000d=c 10027=o 10028=c 1003b=o 1003c=c 1003e=o 1003f=c 1004e=o 10050=c 1005e=o",
  "10080=c 100fb=o 10140=c 10175=o 101fd=c 101fe=o 10280=c 1029d=o 102a0=c 102d1=o 102e0=c 102e1=o",
  "10300=c 10320=o 1032d=c 1034b=o 10350=c 1037b=o 10380=c 1039e=o 103a0=c 103c4=o 103c8=c 103d0=o",
  "103d1=c 103d6=o 10400=c 1049e=o 104a0=c 104aa=o 104b0=c 104d4=o 104d8=c 104fc=o 10500=c 10528=o",
  "10530=c 10564=o 10570=c 1057b=o 1057c=c 1058b=o 1058c=c 10593=o 10594=c 10596=o 10597=c 105a2=o",
  "105a3=c 105b2=o 105b3=c 105ba=o 105bb=c 105bd=o 105c0=c 105f4=o 10600=c 10737=o 10740=c 10756=o",
  "10760=c 10768=o 10780=c 10786=o 10787=c 107b1=o 107b2=c 107bb=o 10800=c 10806=o 10808=c 10809=o",
  "1080a=c 10836=o 10837=c 10839=o 1083c=c 1083d=o 1083f=c 10856=o 10860=c 10877=o 10880=c 1089f=o",
  "108e0=c 108f3=o 108f4=c 108f6=o 10900=c 10916=o 10920=c 1093a=o 10940=c 1095a=o 10980=c 109b8=o",
  "109be=c 109c0=o 10a00=c 10a04=o 10a05=c 10a07=o 10a0c=c 10a14=o 10a15=c 10a18=o 10a19=c 10a36=o",
  "10a38=c 10a3b=o 10a3f=c 10a40=o 10a60=c 10a7d=o 10a80=c 10a9d=o 10ac0=c 10ac8=o 10ac9=c 10ae7=o",
  "10b00=c 10b36=o 10b40=c 10b56=o 10b60=c 10b73=o 10b80=c 10b92=o 10c00=c 10c49=o 10c80=c 10cb3=o",
  "10cc0=c 10cf3=o 10d00=c 10d28=o 10d30=c 10d3a=o 10d40=c 10d66=o 10d69=c 10d86=o 10d8e=c 10d90=o",
  "10e80=c 10eaa=o 10eab=c 10ead=o 10eb0=c 10eb2=o 10ec2=c 10ec8=o 10ed0=c 10ed9=o 10efa=c 10f1d=o",
  "10f27=c 10f28=o 10f30=c 10f51=o 10f70=c 10f86=o 10fb0=c 10fc5=o 10fe0=c 10ff7=o 11000=c 11047=o",
  "11066=c 11076=o 1107f=c 110bb=o 110c2=c 110c3=o 110d0=c 110e9=o 110f0=c 110fa=o 11100=c 11135=o",
  "11136=c 11140=o 11144=c 11148=o 11150=c 11174=o 11176=c 11177=o 11180=c 111c5=o 111c9=c 111cd=o",
  "111ce=c 111db=o 111dc=c 111dd=o 11200=c 11212=o 11213=c 11238=o 1123e=c 11242=o 11280=c 11287=o",
  "11288=c 11289=o 1128a=c 1128e=o 1128f=c 1129e=o 1129f=c 112a9=o 112b0=c 112eb=o 112f0=c 112fa=o",
  "11300=c 11304=o 11305=c 1130d=o 1130f=c 11311=o 11313=c 11329=o 1132a=c 11331=o 11332=c 11334=o",
  "11335=c 1133a=o 1133b=c 11345=o 11347=c 11349=o 1134b=c 1134e=o 11350=c 11351=o 11357=c 11358=o",
  "1135d=c 11364=o 11366=c 1136d=o 11370=c 11375=o 11380=c 1138a=o 1138b=c 1138c=o 1138e=c 1138f=o",
  "11390=c 113b6=o 113b7=c 113c1=o 113c2=c 113c3=o 113c5=c 113c6=o 113c7=c 113cb=o 113cc=c 113d6=o",
  "113d7=c 113d9=o 113e1=c 113e3=o 11400=c 1144b=o 11450=c 1145a=o 1145e=c 11462=o 11480=c 114c6=o",
  "114c7=c 114c8=o 114d0=c 114da=o 11580=c 115b6=o 115b8=c 115c1=o 115d8=c 115de=o 11600=c 11641=o",
  "11644=c 11645=o 11650=c 1165a=o 11680=c 116b9=o 116c0=c 116ca=o 116d0=c 116e4=o 11700=c 1171b=o",
  "1171d=c 1172c=o 11730=c 1173a=o 11740=c 11747=o 11800=c 1183b=o 118a0=c 118ea=o 118ff=c 11907=o",
  "11909=c 1190a=o 1190c=c 11914=o 11915=c 11917=o 11918=c 11936=o 11937=c 11939=o 1193b=c 11944=o",
  "11950=c 1195a=o 119a0=c 119a8=o 119aa=c 119d8=o 119da=c 119e2=o 119e3=c 119e5=o 11a00=c 11a3f=o",
  "11a47=c 11a48=o 11a50=c 11a9a=o 11a9d=c 11a9e=o 11ab0=c 11af9=o 11b60=c 11b68=o 11bc0=c 11be2=o",
  "11bf0=c 11bfa=o 11c00=c 11c09=o 11c0a=c 11c37=o 11c38=c 11c41=o 11c50=c 11c5a=o 11c72=c 11c90=o",
  "11c92=c 11ca8=o 11ca9=c 11cb7=o 11d00=c 11d07=o 11d08=c 11d0a=o 11d0b=c 11d37=o 11d3a=c 11d3b=o",
  "11d3c=c 11d3e=o 11d3f=c 11d48=o 11d50=c 11d5a=o 11d60=c 11d66=o 11d67=c 11d69=o 11d6a=c 11d8f=o",
  "11d90=c 11d92=o 11d93=c 11d99=o 11da0=c 11daa=o 11db0=c 11ddc=o 11de0=c 11dea=o 11ee0=c 11ef7=o",
  "11f00=c 11f11=o 11f12=c 11f3b=o 11f3e=c 11f43=o 11f50=c 11f5b=o 11fb0=c 11fb1=o 12000=c 1239a=o",
  "12400=c 1246f=o 12480=c 12544=o 12f90=c 12ff1=o 13000=c 13430=o 13440=c 13456=o 13460=c 143fb=o",
  "14400=c 14647=o 16100=c 1613a=o 16800=c 16a39=o 16a40=c 16a5f=o 16a60=c 16a6a=o 16a70=c 16abf=o",
  "16ac0=c 16aca=o 16ad0=c 16aee=o 16af0=c 16af5=o 16b00=c 16b37=o 16b40=c 16b44=o 16b50=c 16b5a=o",
  "16b63=c 16b78=o 16b7d=c 16b90=o 16d40=c 16d7a=o 16e40=c 16e80=o 16ea0=c 16eb9=o 16ebb=c 16ed4=o",
  "16f00=c 16f4b=o 16f4f=c 16f88=o 16f8f=c 16fa0=o 16fe0=c 16fe2=o 16fe3=c 16fe5=o 16ff0=c 16ff7=o",
  "17000=c 18cd6=o 18cff=c 18d1f=o 18d80=c 18df3=o 1aff0=c 1aff4=o 1aff5=c 1affc=o 1affd=c 1afff=o",
  "1b000=c 1b123=o 1b132=c 1b133=o 1b150=c 1b153=o 1b155=c 1b156=o 1b164=c 1b168=o 1b170=c 1b2fc=o",
  "1bc00=c 1bc6b=o 1bc70=c 1bc7d=o 1bc80=c 1bc89=o 1bc90=c 1bc9a=o 1bc9d=c 1bc9f=o 1cc00=c 1ccfd=o",
  "1cd00=c 1ceb4=o 1ceba=c 1ced1=o 1cee0=c 1cef1=o 1cf00=c 1cf2e=o 1cf30=c 1cf47=o 1d165=c 1d16a=o",
  "1d16d=c 1d173=o 1d17b=c 1d183=o 1d185=c 1d18c=o 1d1aa=c 1d1ae=o 1d242=c 1d245=o 1d400=c 1d455=o",
  "1d456=c 1d49d=o 1d49e=c 1d4a0=o 1d4a2=c 1d4a3=o 1d4a5=c 1d4a7=o 1d4a9=c 1d4ad=o 1d4ae=c 1d4ba=o",
  "1d4bb=c 1d4bc=o 1d4bd=c 1d4c4=o 1d4c5=c 1d506=o 1d507=c 1d50b=o 1d50d=c 1d515=o 1d516=c 1d51d=o",
  "1d51e=c 1d53a=o 1d53b=c 1d53f=o 1d540=c 1d545=o 1d546=c 1d547=o 1d54a=c 1d551=o 1d552=c 1d6a6=o",
  "1d6a8=c 1d6c1=o 1d6c2=c 1d6db=o 1d6dc=c 1d6fb=o 1d6fc=c 1d715=o 1d716=c 1d735=o 1d736=c 1d74f=o",
  "1d750=c 1d76f=o 1d770=c 1d789=o 1d78a=c 1d7a9=o 1d7aa=c 1d7c3=o 1d7c4=c 1d7cc=o 1d7ce=c 1d800=o",
  "1da00=c 1da37=o 1da3b=c 1da6d=o 1da75=c 1da76=o 1da84=c 1da85=o 1da9b=c 1daa0=o 1daa1=c 1dab0=o",
  "1df00=c 1df1f=o 1df25=c 1df2b=o 1e000=c 1e007=o 1e008=c 1e019=o 1e01b=c 1e022=o 1e023=c 1e025=o",
  "1e026=c 1e02b=o 1e030=c 1e06e=o 1e08f=c 1e090=o 1e100=c 1e12d=o 1e130=c 1e13e=o 1e140=c 1e14a=o",
  "1e14e=c 1e14f=o 1e290=c 1e2af=o 1e2c0=c 1e2fa=o 1e4d0=c 1e4fa=o 1e5d0=c 1e5fb=o 1e5ff=c 1e600=o",
  "1e6c0=c 1e6df=o 1e6e0=c 1e6f6=o 1e6fe=c 1e700=o 1e7e0=c 1e7e7=o 1e7e8=c 1e7ec=o 1e7ed=c 1e7ef=o",
  "1e7f0=c 1e7ff=o 1e800=c 1e8c5=o 1e8d0=c 1e8d7=o 1e900=c 1e94c=o 1e950=c 1e95a=o 1ee00=c 1ee04=o",
  "1ee05=c 1ee20=o 1ee21=c 1ee23=o 1ee24=c 1ee25=o 1ee27=c 1ee28=o 1ee29=c 1ee33=o 1ee34=c 1ee38=o",
  "1ee39=c 1ee3a=o 1ee3b=c 1ee3c=o 1ee42=c 1ee43=o 1ee47=c 1ee48=o 1ee49=c 1ee4a=o 1ee4b=c 1ee4c=o",
  "1ee4d=c 1ee50=o 1ee51=c 1ee53=o 1ee54=c 1ee55=o 1ee57=c 1ee58=o 1ee59=c 1ee5a=o 1ee5b=c 1ee5c=o",
  "1ee5d=c 1ee5e=o 1ee5f=c 1ee60=o 1ee61=c 1ee63=o 1ee64=c 1ee65=o 1ee67=c 1ee6b=o 1ee6c=c 1ee73=o",
  "1ee74=c 1ee78=o 1ee79=c 1ee7d=o 1ee7e=c 1ee7f=o 1ee80=c 1ee8a=o 1ee8b=c 1ee9c=o 1eea1=c 1eea4=o",
  "1eea5=c 1eeaa=o 1eeab=c 1eebc=o 1f6d8=c 1f6d9=o 1f777=c 1f77b=o 1f8b2=c 1f8bc=o 1f8c0=c 1f8c2=o",
  "1f8d0=c 1f8d9=o 1fa54=c 1fa58=o 1fa89=c 1fa8b=o 1fa8e=c 1fa90=o 1fabe=c 1fabf=o 1fac6=c 1fac7=o",
  "1fac8=c 1fac9=o 1facd=c 1face=o 1fadc=c 1fadd=o 1fadf=c 1fae0=o 1fae9=c 1faeb=o 1faef=c 1faf0=o",
  "1fbcb=c 1fbfb=o 20000=c 2a6e0=o 2a700=c 2b81e=o 2b820=c 2ceae=o 2ceb0=c 2ebe1=o 2ebf0=c 2ee5e=o",
  "2f800=c 2fa1e=o 30000=c 3134b=o 31350=c 3347a=o e0100=c e01f0=o"]

/-- The table of starting characters. -/
def startTable : CodeTable Bool :=
  CodeTable.ofText (· == ['s']) startText

/-- The table of continuing characters. -/
def continueTable : CodeTable Bool :=
  CodeTable.ofText (· == ['c']) continueText

/-- Whether a character may start an identifier. -/
def isStart (c : Char) : Bool :=
  c == '_' || (startTable.floor? c.toNat).getD false

/-- Whether a character may continue an identifier. -/
def isContinue (c : Char) : Bool :=
  (continueTable.floor? c.toNat).getD false

end HttpBlueprint.Identifier
