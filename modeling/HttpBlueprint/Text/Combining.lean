import HttpBlueprint.Text.CodeTable
/-!
# Combining classes and marks

The Canonical_Combining_Class of Unicode, by which normalization orders the marks
that follow a base character (0 for a starter, 9 for a virama), and the marks
themselves: the characters of general category M, which attach to the character
before them.
-/

namespace HttpBlueprint.Combining

/-- The combining classes of all code points, as ranges. -/
def classText : String :=
  " ".intercalate [
  "0=0 300=e6 315=e8 316=dc 31a=e8 31b=d8 31c=dc 321=ca 323=dc 327=ca 329=dc 334=1 339=dc 33d=e6",
  "345=f0 346=e6 347=dc 34a=e6 34d=dc 34f=0 350=e6 353=dc 357=e6 358=e8 359=dc 35b=e6 35c=e9 35d=ea",
  "35f=e9 360=ea 362=e9 363=e6 370=0 483=e6 488=0 591=dc 592=e6 596=dc 597=e6 59a=de 59b=dc 59c=e6",
  "5a2=dc 5a8=e6 5aa=dc 5ab=e6 5ad=de 5ae=e4 5af=e6 5b0=a 5b1=b 5b2=c 5b3=d 5b4=e 5b5=f 5b6=10",
  "5b7=11 5b8=12 5b9=13 5bb=14 5bc=15 5bd=16 5be=0 5bf=17 5c0=0 5c1=18 5c2=19 5c3=0 5c4=e6 5c5=dc",
  "5c6=0 5c7=12 5c8=0 610=e6 618=1e 619=1f 61a=20 61b=0 64b=1b 64c=1c 64d=1d 64e=1e 64f=1f 650=20",
  "651=21 652=22 653=e6 655=dc 657=e6 65c=dc 65d=e6 65f=dc 660=0 670=23 671=0 6d6=e6 6dd=0 6df=e6",
  "6e3=dc 6e4=e6 6e5=0 6e7=e6 6e9=0 6ea=dc 6eb=e6 6ed=dc 6ee=0 711=24 712=0 730=e6 731=dc 732=e6",
  "734=dc 735=e6 737=dc 73a=e6 73b=dc 73d=e6 73e=dc 73f=e6 742=dc 743=e6 744=dc 745=e6 746=dc",
  "747=e6 748=dc 749=e6 74b=0 7eb=e6 7f2=dc 7f3=e6 7f4=0 7fd=dc 7fe=0 816=e6 81a=0 81b=e6 824=0",
  "825=e6 828=0 829=e6 82e=0 859=dc 85c=0 898=e6 899=dc 89c=e6 8a0=0 8ca=e6 8cf=dc 8d4=e6 8e2=0",
  "8e3=dc 8e4=e6 8e6=dc 8e7=e6 8e9=dc 8ea=e6 8ed=dc 8f0=1b 8f1=1c 8f2=1d 8f3=e6 8f6=dc 8f7=e6",
  "8f9=dc 8fb=e6 900=0 93c=7 93d=0 94d=9 94e=0 951=e6 952=dc 953=e6 955=0 9bc=7 9bd=0 9cd=9 9ce=0",
  "9fe=e6 9ff=0 a3c=7 a3d=0 a4d=9 a4e=0 abc=7 abd=0 acd=9 ace=0 b3c=7 b3d=0 b4d=9 b4e=0 bcd=9 bce=0",
  "c3c=7 c3d=0 c4d=9 c4e=0 c55=54 c56=5b c57=0 cbc=7 cbd=0 ccd=9 cce=0 d3b=9 d3d=0 d4d=9 d4e=0",
  "dca=9 dcb=0 e38=67 e3a=9 e3b=0 e48=6b e4c=0 eb8=76 eba=9 ebb=0 ec8=7a ecc=0 f18=dc f1a=0 f35=dc",
  "f36=0 f37=dc f38=0 f39=d8 f3a=0 f71=81 f72=82 f73=0 f74=84 f75=0 f7a=82 f7e=0 f80=82 f81=0",
  "f82=e6 f84=9 f85=0 f86=e6 f88=0 fc6=dc fc7=0 1037=7 1038=0 1039=9 103b=0 108d=dc 108e=0 135d=e6",
  "1360=0 1714=9 1716=0 1734=9 1735=0 17d2=9 17d3=0 17dd=e6 17de=0 18a9=e4 18aa=0 1939=de 193a=e6",
  "193b=dc 193c=0 1a17=e6 1a18=dc 1a19=0 1a60=9 1a61=0 1a75=e6 1a7d=0 1a7f=dc 1a80=0 1ab0=e6",
  "1ab5=dc 1abb=e6 1abd=dc 1abe=0 1abf=dc 1ac1=e6 1ac3=dc 1ac5=e6 1aca=dc 1acb=e6 1acf=0 1b34=7",
  "1b35=0 1b44=9 1b45=0 1b6b=e6 1b6c=dc 1b6d=e6 1b74=0 1baa=9 1bac=0 1be6=7 1be7=0 1bf2=9 1bf4=0",
  "1c37=7 1c38=0 1cd0=e6 1cd3=0 1cd4=1 1cd5=dc 1cda=e6 1cdc=dc 1ce0=e6 1ce1=0 1ce2=1 1ce9=0 1ced=dc",
  "1cee=0 1cf4=e6 1cf5=0 1cf8=e6 1cfa=0 1dc0=e6 1dc2=dc 1dc3=e6 1dca=dc 1dcb=e6 1dcd=ea 1dce=d6",
  "1dcf=dc 1dd0=ca 1dd1=e6 1df6=e8 1df7=e4 1df9=dc 1dfa=da 1dfb=e6 1dfc=e9 1dfd=dc 1dfe=e6 1dff=dc",
  "1e00=0 20d0=e6 20d2=1 20d4=e6 20d8=1 20db=e6 20dd=0 20e1=e6 20e2=0 20e5=1 20e7=e6 20e8=dc",
  "20e9=e6 20ea=1 20ec=dc 20f0=e6 20f1=0 2cef=e6 2cf2=0 2d7f=9 2d80=0 2de0=e6 2e00=0 302a=da",
  "302b=e4 302c=e8 302d=de 302e=e0 3030=0 3099=8 309b=0 a66f=e6 a670=0 a674=e6 a67e=0 a69e=e6",
  "a6a0=0 a6f0=e6 a6f2=0 a806=9 a807=0 a82c=9 a82d=0 a8c4=9 a8c5=0 a8e0=e6 a8f2=0 a92b=dc a92e=0",
  "a953=9 a954=0 a9b3=7 a9b4=0 a9c0=9 a9c1=0 aab0=e6 aab1=0 aab2=e6 aab4=dc aab5=0 aab7=e6 aab9=0",
  "aabe=e6 aac0=0 aac1=e6 aac2=0 aaf6=9 aaf7=0 abed=9 abee=0 fb1e=1a fb1f=0 fe20=e6 fe27=dc fe2e=e6",
  "fe30=0 101fd=dc 101fe=0 102e0=dc 102e1=0 10376=e6 1037b=0 10a0d=dc 10a0e=0 10a0f=e6 10a10=0",
  "10a38=e6 10a39=1 10a3a=dc 10a3b=0 10a3f=9 10a40=0 10ae5=e6 10ae6=dc 10ae7=0 10d24=e6 10d28=0",
  "10eab=e6 10ead=0 10efd=dc 10f00=0 10f46=dc 10f48=e6 10f4b=dc 10f4c=e6 10f4d=dc 10f51=0 10f82=e6",
  "10f83=dc 10f84=e6 10f85=dc 10f86=0 11046=9 11047=0 11070=9 11071=0 1107f=9 11080=0 110b9=9",
  "110ba=7 110bb=0 11100=e6 11103=0 11133=9 11135=0 11173=7 11174=0 111c0=9 111c1=0 111ca=7 111cb=0",
  "11235=9 11236=7 11237=0 112e9=7 112ea=9 112eb=0 1133b=7 1133d=0 1134d=9 1134e=0 11366=e6 1136d=0",
  "11370=e6 11375=0 11442=9 11443=0 11446=7 11447=0 1145e=e6 1145f=0 114c2=9 114c3=7 114c4=0",
  "115bf=9 115c0=7 115c1=0 1163f=9 11640=0 116b6=9 116b7=7 116b8=0 1172b=9 1172c=0 11839=9 1183a=7",
  "1183b=0 1193d=9 1193f=0 11943=7 11944=0 119e0=9 119e1=0 11a34=9 11a35=0 11a47=9 11a48=0 11a99=9",
  "11a9a=0 11c3f=9 11c40=0 11d42=7 11d43=0 11d44=9 11d46=0 11d97=9 11d98=0 11f41=9 11f43=0 16af0=1",
  "16af5=0 16b30=e6 16b37=0 16ff0=6 16ff2=0 1bc9e=1 1bc9f=0 1d165=d8 1d167=1 1d16a=0 1d16d=e2",
  "1d16e=d8 1d173=0 1d17b=dc 1d183=0 1d185=e6 1d18a=dc 1d18c=0 1d1aa=e6 1d1ae=0 1d242=e6 1d245=0",
  "1e000=e6 1e007=0 1e008=e6 1e019=0 1e01b=e6 1e022=0 1e023=e6 1e025=0 1e026=e6 1e02b=0 1e08f=e6",
  "1e090=0 1e130=e6 1e137=0 1e2ae=e6 1e2af=0 1e2ec=e6 1e2f0=0 1e4ec=e8 1e4ee=dc 1e4ef=e6 1e4f0=0",
  "1e8d0=dc 1e8d7=0 1e944=e6 1e94a=7 1e94b=0"]

/-- The table of combining classes. -/
def classTable : CodeTable Nat :=
  CodeTable.ofText CodeTable.hexValue classText

/-- The canonical combining class of a code point. -/
def combiningClass (n : Nat) : Nat :=
  (classTable.floor? n).getD 0

/-- The combining class of a virama, the mark that kills a consonant's vowel. -/
def viramaClass : Nat := 9

/-- The ranges of marks (`m`) and other characters (`o`). -/
def markText : String :=
  " ".intercalate [
  "0=o 300=m 370=o 483=m 48a=o 591=m 5be=o 5bf=m 5c0=o 5c1=m 5c3=o 5c4=m 5c6=o 5c7=m 5c8=o 610=m",
  "61b=o 64b=m 660=o 670=m 671=o 6d6=m 6dd=o 6df=m 6e5=o 6e7=m 6e9=o 6ea=m 6ee=o 711=m 712=o 730=m",
  "74b=o 7a6=m 7b1=o 7eb=m 7f4=o 7fd=m 7fe=o 816=m 81a=o 81b=m 824=o 825=m 828=o 829=m 82e=o 859=m",
  "85c=o 897=m 8a0=o 8ca=m 8e2=o 8e3=m 904=o 93a=m 93d=o 93e=m 950=o 951=m 958=o 962=m 964=o 981=m",
  "984=o 9bc=m 9bd=o 9be=m 9c5=o 9c7=m 9c9=o 9cb=m 9ce=o 9d7=m 9d8=o 9e2=m 9e4=o 9fe=m 9ff=o a01=m",
  "a04=o a3c=m a3d=o a3e=m a43=o a47=m a49=o a4b=m a4e=o a51=m a52=o a70=m a72=o a75=m a76=o a81=m",
  "a84=o abc=m abd=o abe=m ac6=o ac7=m aca=o acb=m ace=o ae2=m ae4=o afa=m b00=o b01=m b04=o b3c=m",
  "b3d=o b3e=m b45=o b47=m b49=o b4b=m b4e=o b55=m b58=o b62=m b64=o b82=m b83=o bbe=m bc3=o bc6=m",
  "bc9=o bca=m bce=o bd7=m bd8=o c00=m c05=o c3c=m c3d=o c3e=m c45=o c46=m c49=o c4a=m c4e=o c55=m",
  "c57=o c62=m c64=o c81=m c84=o cbc=m cbd=o cbe=m cc5=o cc6=m cc9=o cca=m cce=o cd5=m cd7=o ce2=m",
  "ce4=o cf3=m cf4=o d00=m d04=o d3b=m d3d=o d3e=m d45=o d46=m d49=o d4a=m d4e=o d57=m d58=o d62=m",
  "d64=o d81=m d84=o dca=m dcb=o dcf=m dd5=o dd6=m dd7=o dd8=m de0=o df2=m df4=o e31=m e32=o e34=m",
  "e3b=o e47=m e4f=o eb1=m eb2=o eb4=m ebd=o ec8=m ecf=o f18=m f1a=o f35=m f36=o f37=m f38=o f39=m",
  "f3a=o f3e=m f40=o f71=m f85=o f86=m f88=o f8d=m f98=o f99=m fbd=o fc6=m fc7=o 102b=m 103f=o",
  "1056=m 105a=o 105e=m 1061=o 1062=m 1065=o 1067=m 106e=o 1071=m 1075=o 1082=m 108e=o 108f=m",
  "1090=o 109a=m 109e=o 135d=m 1360=o 1712=m 1716=o 1732=m 1735=o 1752=m 1754=o 1772=m 1774=o",
  "17b4=m 17d4=o 17dd=m 17de=o 180b=m 180e=o 180f=m 1810=o 1885=m 1887=o 18a9=m 18aa=o 1920=m",
  "192c=o 1930=m 193c=o 1a17=m 1a1c=o 1a55=m 1a5f=o 1a60=m 1a7d=o 1a7f=m 1a80=o 1ab0=m 1ade=o",
  "1ae0=m 1aec=o 1b00=m 1b05=o 1b34=m 1b45=o 1b6b=m 1b74=o 1b80=m 1b83=o 1ba1=m 1bae=o 1be6=m",
  "1bf4=o 1c24=m 1c38=o 1cd0=m 1cd3=o 1cd4=m 1ce9=o 1ced=m 1cee=o 1cf4=m 1cf5=o 1cf7=m 1cfa=o",
  "1dc0=m 1e00=o 20d0=m 20f1=o 2cef=m 2cf2=o 2d7f=m 2d80=o 2de0=m 2e00=o 302a=m 3030=o 3099=m",
  "309b=o a66f=m a673=o a674=m a67e=o a69e=m a6a0=o a6f0=m a6f2=o a802=m a803=o a806=m a807=o",
  "a80b=m a80c=o a823=m a828=o a82c=m a82d=o a880=m a882=o a8b4=m a8c6=o a8e0=m a8f2=o a8ff=m",
  "a900=o a926=m a92e=o a947=m a954=o a980=m a984=o a9b3=m a9c1=o a9e5=m a9e6=o aa29=m aa37=o",
  "aa43=m aa44=o aa4c=m aa4e=o aa7b=m aa7e=o aab0=m aab1=o aab2=m aab5=o aab7=m aab9=o aabe=m",
  "aac0=o aac1=m aac2=o aaeb=m aaf0=o aaf5=m aaf7=o abe3=m abeb=o abec=m abee=o fb1e=m fb1f=o",
  "fe00=m fe10=o fe20=m fe30=o 101fd=m 101fe=o 102e0=m 102e1=o 10376=m 1037b=o 10a01=m 10a04=o",
  "10a05=m 10a07=o 10a0c=m 10a10=o 10a38=m 10a3b=o 10a3f=m 10a40=o 10ae5=m 10ae7=o 10d24=m 10d28=o",
  "10d69=m 10d6e=o 10eab=m 10ead=o 10efa=m 10f00=o 10f46=m 10f51=o 10f82=m 10f86=o 11000=m 11003=o",
  "11038=m 11047=o 11070=m 11071=o 11073=m 11075=o 1107f=m 11083=o 110b0=m 110bb=o 110c2=m 110c3=o",
  "11100=m 11103=o 11127=m 11135=o 11145=m 11147=o 11173=m 11174=o 11180=m 11183=o 111b3=m 111c1=o",
  "111c9=m 111cd=o 111ce=m 111d0=o 1122c=m 11238=o 1123e=m 1123f=o 11241=m 11242=o 112df=m 112eb=o",
  "11300=m 11304=o 1133b=m 1133d=o 1133e=m 11345=o 11347=m 11349=o 1134b=m 1134e=o 11357=m 11358=o",
  "11362=m 11364=o 11366=m 1136d=o 11370=m 11375=o 113bb=m 113c1=o 113ce=m 113cf=o 113d0=m 113d1=o",
  "113d2=m 113d3=o 113e1=m 113e3=o 11435=m 11447=o 1145e=m 1145f=o 114b0=m 114c4=o 115af=m 115b6=o",
  "115b8=m 115c1=o 115dc=m 115de=o 11630=m 11641=o 116ab=m 116b8=o 1171d=m 1172c=o 1182c=m 1183b=o",
  "11930=m 11936=o 11937=m 11939=o 1193b=m 1193f=o 11940=m 11941=o 11942=m 11944=o 119d1=m 119d8=o",
  "119da=m 119e1=o 119e4=m 119e5=o 11a01=m 11a0b=o 11a33=m 11a3a=o 11a3b=m 11a3f=o 11a47=m 11a48=o",
  "11a51=m 11a5c=o 11a8a=m 11a9a=o 11b60=m 11b61=o 11b62=m 11b65=o 11b66=m 11b67=o 11c2f=m 11c37=o",
  "11c38=m 11c40=o 11c92=m 11ca8=o 11ca9=m 11cb7=o 11d31=m 11d37=o 11d3a=m 11d3b=o 11d3c=m 11d3e=o",
  "11d3f=m 11d46=o 11d47=m 11d48=o 11d8a=m 11d8f=o 11d90=m 11d92=o 11d93=m 11d98=o 11ef3=m 11ef7=o",
  "11f00=m 11f02=o 11f03=m 11f04=o 11f34=m 11f3b=o 11f3e=m 11f43=o 11f5a=m 11f5b=o 13440=m 13441=o",
  "13447=m 13456=o 1611e=m 1612a=o 1612d=m 16130=o 16af0=m 16af5=o 16b30=m 16b37=o 16f4f=m 16f50=o",
  "16f51=m 16f88=o 16f8f=m 16f93=o 16fe4=m 16fe5=o 16ff0=m 16ff2=o 1bc9d=m 1bc9f=o 1cf00=m 1cf2e=o",
  "1cf30=m 1cf47=o 1d165=m 1d16a=o 1d16d=m 1d173=o 1d17b=m 1d183=o 1d185=m 1d18c=o 1d1aa=m 1d1ae=o",
  "1d242=m 1d245=o 1da00=m 1da37=o 1da3b=m 1da6d=o 1da75=m 1da76=o 1da84=m 1da85=o 1da9b=m 1daa0=o",
  "1daa1=m 1dab0=o 1e000=m 1e007=o 1e008=m 1e019=o 1e01b=m 1e022=o 1e023=m 1e025=o 1e026=m 1e02b=o",
  "1e08f=m 1e090=o 1e130=m 1e137=o 1e2ae=m 1e2af=o 1e2ec=m 1e2f0=o 1e4ec=m 1e4f0=o 1e5ee=m 1e5f0=o",
  "1e6e3=m 1e6e4=o 1e6e6=m 1e6e7=o 1e6ee=m 1e6f0=o 1e6f5=m 1e6f6=o 1e8d0=m 1e8d7=o 1e944=m 1e94b=o",
  "e0100=m e01f0=o"]

/-- The table of marks. -/
def markTable : CodeTable Bool :=
  CodeTable.ofText (· == ['m']) markText

/-- Whether a character is a mark. -/
def isMark (c : Char) : Bool :=
  (markTable.floor? c.toNat).getD false

end HttpBlueprint.Combining
