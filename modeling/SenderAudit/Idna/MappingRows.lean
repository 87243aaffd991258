import SenderAudit.Idna.CodePoints

/-!
What the mapping of internationalized names does with each code point, in rows of 256.
In an entry, a range of offsets is followed by `!` (disallowed), `.` (ignored), `=` and the
code points that replace it, `:` and the image of the first offset (the next ones follow
it in step), or `/` and the image of the first of every second offset. What no row
mentions is valid and stands for itself.
-/
namespace SenderAudit.Idna

/-- The entries of the code points from `256 * first` to `256 * last + 255`; an offset is
counted from the start of its own 256. -/
structure Row where
  first : Nat
  last : Nat
  entries : String

def mappingRows : List Row := [
  ⟨0x0, 0x0, "41-5A:61 80-9F! A0=20 A8=20,308 AA=61 AD. AF=20,304 B2-B3:32 B4=20,301 B5=3BC
    B8=20,327 B9=31 BA=6F BC=31,2044,34 BD=31,2044,32 BE=33,2044,34 C0-D6:E0 D8-DE:F8"⟩,
  ⟨0x1, 0x1, "00-2E/101 30=69,307 32-33=69,6A 34-36/135 39-3D/13A 3F-40=6C,B7 41-47/142
    49=2BC,6E 4A-76/14B 78=FF 79-7D/17A 7F=73 81=253 82-84/183 86=254 87=188 89-8A:256 8B=18C
    8E=1DD 8F=259 90=25B 91=192 93=260 94=263 96=269 97=268 98=199 9C=26F 9D=272 9F=275
    A0-A4/1A1 A6=280 A7=1A8 A9=283 AC=1AD AE=288 AF=1B0 B1-B2:28A B3-B5/1B4 B7=292 B8=1B9 BC=1BD
    C4-C6=64,17E C7-C9=6C,6A CA-CC=6E,6A CD-DB/1CE DE-EE/1DF F1-F3=64,7A F4=1F5 F6=195 F7=1BF
    F8-FE/1F9"⟩,
  ⟨0x2, 0x2, "00-1E/201 20=19E 22-32/223 3A=2C65 3B=23C 3D=19A 3E=2C66 41=242 43=180 44=289
    45=28C 46-4E/247 B0-B2/68 B1=266 B3=72 B4=279 B5=27B B6=281 B7=77 B8=79 D8=20,306 D9=20,307
    DA=20,30A DB=20,328 DC=20,303 DD=20,30B E0=263 E1=6C E2=73 E3=78 E4=295"⟩,
  ⟨0x3, 0x3, "40-41:300 43=313 44=308,301 45=3B9 4F. 70-72/371 74=2B9 76=377 78-79! 7A=20,3B9
    7E=3B 7F=3F3 80-83! 84=20,301 85=20,308,301 86=3AC 87=B7 88-8A:3AD 8B! 8C=3CC 8D! 8E-8F:3CD
    91-A1:3B1 A2! A3-AB:3C3 CF=3D7 D0=3B2 D1=3B8 D2=3C5 D3=3CD D4=3CB D5=3C6 D6=3C0 D8-EE/3D9
    F0=3BA F1=3C1 F2=3C3 F4=3B8 F5=3B5 F7=3F8 F9=3C3 FA=3FB FD-FF:37B"⟩,
  ⟨0x4, 0x4, "00-0F:450 10-2F:430 60-80/461 8A-BE/48B C0=4CF C1-CD/4C2 D0-FE/4D1"⟩,
  ⟨0x5, 0x5, "00-2E/501 30! 31-56:561 57-58! 87=565,582 8B-8C! 90! C8-CF! EB-EE! F5-FF!"⟩,
  ⟨0x6, 0x6, "00-05! 1C! 75=627,674 76=648,674 77=6C7,674 78=64A,674 DD!"⟩,
  ⟨0x7, 0x7, "0E-0F! 4B-4C! B2-BF! FB-FC!"⟩,
  ⟨0x8, 0x8, "2E-2F! 3F! 5C-5D! 5F! 6B-6F! 90-96! E2!"⟩,
  ⟨0x9, 0x9, "58=915,93C 59=916,93C 5A=917,93C 5B=91C,93C 5C=921,93C 5D=922,93C 5E=92B,93C
    5F=92F,93C 84! 8D-8E! 91-92! A9! B1! B3-B5! BA-BB! C5-C6! C9-CA! CF-D6! D8-DB! DC=9A1,9BC
    DD=9A2,9BC DE! DF=9AF,9BC E4-E5! FF!"⟩,
  ⟨0xA, 0xA, "00! 04! 0B-0E! 11-12! 29! 31! 33=A32,A3C 34! 36=A38,A3C 37! 3A-3B! 3D! 43-46!
    49-4A! 4E-50! 52-58! 59=A16,A3C 5A=A17,A3C 5B=A1C,A3C 5D! 5E=A2B,A3C 5F-65! 77-80! 84! 8E!
    92! A9! B1! B4! BA-BB! C6! CA! CE-CF! D1-DF! E4-E5! F2-F8!"⟩,
  ⟨0xB, 0xB, "00! 04! 0D-0E! 11-12! 29! 31! 34! 3A-3B! 45-46! 49-4A! 4E-54! 58-5B! 5C=B21,B3C
    5D=B22,B3C 5E! 64-65! 78-81! 84! 8B-8D! 91! 96-98! 9B! 9D! A0-A2! A5-A7! AB-AD! BA-BD!
    C3-C5! C9! CE-CF! D1-D6! D8-E5! FB-FF!"⟩,
  ⟨0xC, 0xC, "0D! 11! 29! 3A-3B! 45! 49! 4E-54! 57! 5B! 5E-5F! 64-65! 70-76! 8D! 91! A9! B4!
    BA-BB! C5! C9! CE-D4! D7-DB! DF! E4-E5! F0! F4-FF!"⟩,
  ⟨0xD, 0xD, "0D! 11! 45! 49! 50-53! 64-65! 80! 84! 97-99! B2! BC! BE-BF! C7-C9! CB-CE! D5! D7!
    E0-E5! F0-F1! F5-FF!"⟩,
  ⟨0xE, 0xE, "00! 33=E4D,E32 3B-3E! 5C-80! 83! 85! 8B! A4! A6! B3=ECD,EB2 BE-BF! C5! C7! CF!
    DA-DB! DC=EAB,E99 DD=EAB,EA1 E0-FF!"⟩,
  ⟨0xF, 0xF, "0C=F0B 43=F42,FB7 48! 4D=F4C,FB7 52=F51,FB7 57=F56,FB7 5C=F5B,FB7 69=F40,FB5
    6D-70! 73=F71,F72 75=F71,F74 76=FB2,F80 77=FB2,F71,F80 78=FB3,F80 79=FB3,F71,F80 81=F71,F80
    93=F92,FB7 98! 9D=F9C,FB7 A2=FA1,FB7 A7=FA6,FB7 AC=FAB,FB7 B9=F90,FB5 BD! CD! DB-FF!"⟩,
  ⟨0x10, 0x10, "A0-C5:2D00 C6! C7=2D27 C8-CC! CD=2D2D CE-CF! FC=10DC"⟩,
  ⟨0x11, 0x11, "5F-60."⟩,
  ⟨0x12, 0x12, "49! 4E-4F! 57! 59! 5E-5F! 89! 8E-8F! B1! B6-B7! BF! C1! C6-C7! D7!"⟩,
  ⟨0x13, 0x13, "11! 16-17! 5B-5C! 7D-7F! 9A-9F! F6-F7! F8-FD:13F0 FE-FF!"⟩,
  ⟨0x16, 0x16, "80! 9D-9F! F9-FF!"⟩,
  ⟨0x17, 0x17, "16-1E! 37-3F! 54-5F! 6D! 71! 74-7F! B4-B5. DE-DF! EA-EF! FA-FF!"⟩,
  ⟨0x18, 0x18, "0B-0F. 1A-1F! 79-7F! AB-AF! F6-FF!"⟩,
  ⟨0x19, 0x19, "1F! 2C-2F! 3C-3F! 41-43! 6E-6F! 75-7F! AC-AF! CA-CF! DB-DD!"⟩,
  ⟨0x1A, 0x1A, "1C-1D! 5F! 7D-7E! 8A-8F! 9A-9F! AE-AF! DE-DF! EC-FF!"⟩,
  ⟨0x1B, 0x1B, "4D! F4-FB!"⟩,
  ⟨0x1C, 0x1C, "38-3A! 4A-4C! 80=432 81=434 82=43E 83-84:441 85=442 86=44A 87=463 88=A64B
    89=1C8A 8B-8F! 90-BA:10D0 BB-BC! BD-BF:10FD C8-CF! FB-FF!"⟩,
  ⟨0x1D, 0x1D, "2C=61 2D=E6 2E-30/62 31-39/65 32=1DD 34-3A/68 3C=6F 3D=223 3E=70 3F=72 40-41:74
    42=77 43=61 44-45:250 46=1D02 47=62 48-49:64 4A=259 4B-4C:25B 4D=67 4F=6B 50-52/6D 51=14B
    53=254 54-55:1D16 56=70 57-58:74 59=1D1D 5A=26F 5B=76 5C=1D25 5D-5F:3B2 60-61:3C6 62=69
    63=72 64-65:75 66-67:3B2 68=3C1 69-6A:3C6 78=43D 9B=252 9C=63 9D=255 9E=F0 9F=25C A0=66
    A1=25F A2=261 A3=265 A4-A6:268 A7=1D7B A8=29D A9=26D AA=1D85 AB=29F AC=271 AD=270 AE-B1:272
    B2=278 B3-B4:282 B5=1AB B6-B7:289 B8=1D1C B9-BA:28B BB=7A BC-BE:290 BF=3B8"⟩,
  ⟨0x1E, 0x1E, "00-94/1E01 9A=61,2BE 9B=1E61 9E=DF A0-FE/1EA1"⟩,
  ⟨0x1F, 0x1F, "08-0F:1F00 16-17! 18-1D:1F10 1E-1F! 28-2F:1F20 38-3F:1F30 46-47! 48-4D:1F40
    4E-4F! 58! 59-5F/1F51 5A! 5C! 5E! 68-6F:1F60 71=3AC 73=3AD 75=3AE 77=3AF 79=3CC 7B=3CD
    7D=3CE 7E-7F! 80=1F00,3B9 81=1F01,3B9 82=1F02,3B9 83=1F03,3B9 84=1F04,3B9 85=1F05,3B9
    86=1F06,3B9 87=1F07,3B9 88=1F00,3B9 89=1F01,3B9 8A=1F02,3B9 8B=1F03,3B9 8C=1F04,3B9
    8D=1F05,3B9 8E=1F06,3B9 8F=1F07,3B9 90=1F20,3B9 91=1F21,3B9 92=1F22,3B9 93=1F23,3B9
    94=1F24,3B9 95=1F25,3B9 96=1F26,3B9 97=1F27,3B9 98=1F20,3B9 99=1F21,3B9 9A=1F22,3B9
    9B=1F23,3B9 9C=1F24,3B9 9D=1F25,3B9 9E=1F26,3B9 9F=1F27,3B9 A0=1F60,3B9 A1=1F61,3B9
    A2=1F62,3B9 A3=1F63,3B9 A4=1F64,3B9 A5=1F65,3B9 A6=1F66,3B9 A7=1F67,3B9 A8=1F60,3B9
    A9=1F61,3B9 AA=1F62,3B9 AB=1F63,3B9 AC=1F64,3B9 AD=1F65,3B9 AE=1F66,3B9 AF=1F67,3B9
    B2=1F70,3B9 B3=3B1,3B9 B4=3AC,3B9 B5! B7=1FB6,3B9 B8-B9:1FB0 BA=1F70 BB=3AC BC=3B1,3B9
    BD=20,313 BE=3B9 BF=20,313 C0=20,342 C1=20,308,342 C2=1F74,3B9 C3=3B7,3B9 C4=3AE,3B9 C5!
    C7=1FC6,3B9 C8-CA/1F72 C9=3AD CB=3AE CC=3B7,3B9 CD=20,313,300 CE=20,313,301 CF=20,313,342
    D3=390 D4-D5! D8-D9:1FD0 DA=1F76 DB=3AF DC! DD=20,314,300 DE=20,314,301 DF=20,314,342 E3=3B0
    E8-E9:1FE0 EA=1F7A EB=3CD EC=1FE5 ED=20,308,300 EE=20,308,301 EF=60 F0-F1! F2=1F7C,3B9
    F3=3C9,3B9 F4=3CE,3B9 F5! F7=1FF6,3B9 F8=1F78 F9-FB/3CC FA=1F7C FC=3C9,3B9 FD=20,301
    FE=20,314 FF!"⟩,
  ⟨0x20, 0x20, "00-0A=20 0B. 0E-0F! 11=2010 17=20,333 24-26! 28-2E! 2F=20 33=2032,2032
    34=2032,2032,2032 36=2035,2035 37=2035,2035,2035 3C=21,21 3E=20,305 47=3F,3F 48=3F,21
    49=21,3F 57=2032,2032,2032,2032 5F=20 60-64. 65-69! 6A-6F. 70=30 71=69 72-73! 74-79:34 7A=2B
    7B=2212 7C=3D 7D-7E:28 7F=6E 80-89:30 8A=2B 8B=2212 8C=3D 8D-8E:28 8F! 90=61 91=65 92=6F
    93=78 94=259 95=68 96-99:6B 9A=70 9B-9C:73 9D-9F! A8=72,73 C2-CF! F1-FF!"⟩,
  ⟨0x21, 0x21, "00=61,2F,63 01=61,2F,73 02=63 03=B0,63 05=63,2F,6F 06=63,2F,75 07=25B 09=B0,66
    0A-0B:67 0C-0E=68 0F=127 10-11=69 12-13=6C 15=6E 16=6E,6F 19-1B:70 1C-1D=72 20=73,6D
    21=74,65,6C 22=74,6D 24=7A 26=3C9 28=7A 2A=6B 2B=E5 2C-2D:62 2F-30=65 31=66 32=214E 33=6D
    34=6F 35-38:5D0 39=69 3B=66,61,78 3C=3C0 3D-3E=3B3 3F=3C0 40=2211 45-46=64 47=65 48-49:69
    50=31,2044,37 51=31,2044,39 52=31,2044,31,30 53=31,2044,33 54=32,2044,33 55=31,2044,35
    56=32,2044,35 57=33,2044,35 58=34,2044,35 59=31,2044,36 5A=35,2044,36 5B=31,2044,38
    5C=33,2044,38 5D=35,2044,38 5E=37,2044,38 5F=31,2044 60=69 61=69,69 62=69,69,69 63=69,76
    64=76 65=76,69 66=76,69,69 67=76,69,69,69 68=69,78 69=78 6A=78,69 6B=78,69,69 6C=6C 6D-6E:63
    6F=6D 70=69 71=69,69 72=69,69,69 73=69,76 74=76 75=76,69 76=76,69,69 77=76,69,69,69 78=69,78
    79=78 7A=78,69 7B=78,69,69 7C=6C 7D-7E:63 7F=6D 83=2184 89=30,2044,33 8C-8F!"⟩,
  ⟨0x22, 0x22, "2C=222B,222B 2D=222B,222B,222B 2F=222E,222E 30=222E,222E,222E"⟩,
  ⟨0x23, 0x23, "29-2A:3008"⟩,
  ⟨0x24, 0x24, "2A-3F! 4B-5F! 60-68:31 69=31,30 6A=31,31 6B=31,32 6C=31,33 6D=31,34 6E=31,35
    6F=31,36 70=31,37 71=31,38 72=31,39 73=32,30 74=28,31,29 75=28,32,29 76=28,33,29 77=28,34,29
    78=28,35,29 79=28,36,29 7A=28,37,29 7B=28,38,29 7C=28,39,29 7D=28,31,30,29 7E=28,31,31,29
    7F=28,31,32,29 80=28,31,33,29 81=28,31,34,29 82=28,31,35,29 83=28,31,36,29 84=28,31,37,29
    85=28,31,38,29 86=28,31,39,29 87=28,32,30,29 88-9B! 9C=28,61,29 9D=28,62,29 9E=28,63,29
    9F=28,64,29 A0=28,65,29 A1=28,66,29 A2=28,67,29 A3=28,68,29 A4=28,69,29 A5=28,6A,29
    A6=28,6B,29 A7=28,6C,29 A8=28,6D,29 A9=28,6E,29 AA=28,6F,29 AB=28,70,29 AC=28,71,29
    AD=28,72,29 AE=28,73,29 AF=28,74,29 B0=28,75,29 B1=28,76,29 B2=28,77,29 B3=28,78,29
    B4=28,79,29 B5=28,7A,29 B6-CF:61 D0-E9:61 EA=30"⟩,
  ⟨0x2A, 0x2A, "0C=222B,222B,222B,222B 74=3A,3A,3D 75=3D,3D 76=3D,3D,3D DC=2ADD,338"⟩,
  ⟨0x2B, 0x2B, "74-75!"⟩,
  ⟨0x2C, 0x2C, "00-2F:2C30 60=2C61 62=26B 63=1D7D 64=27D 67-6B/2C68 6D=251 6E=271 6F=250 70=252
    72=2C73 75=2C76 7C=6A 7D=76 7E-7F:23F 80-E2/2C81 EB-ED/2CEC F2=2CF3 F4-F8!"⟩,
  ⟨0x2D, 0x2D, "26! 28-2C! 2E-2F! 68-6E! 6F=2D61 71-7E! 97-9F! A7! AF! B7! BF! C7! CF! D7! DF!"⟩,
  ⟨0x2E, 0x2E, "5E-7F! 9A! 9F=6BCD F3=9F9F F4-FF!"⟩,
  ⟨0x2F, 0x2F, "00=4E00 01=4E28 02=4E36 03=4E3F 04=4E59 05=4E85 06=4E8C 07=4EA0 08=4EBA 09=513F
    0A=5165 0B=516B 0C=5182 0D=5196 0E=51AB 0F=51E0 10=51F5 11=5200 12=529B 13=52F9 14=5315
    15=531A 16=5338 17=5341 18=535C 19=5369 1A=5382 1B=53B6 1C=53C8 1D=53E3 1E=56D7 1F=571F
    20=58EB 21=5902 22=590A 23=5915 24=5927 25=5973 26=5B50 27=5B80 28=5BF8 29=5C0F 2A=5C22
    2B=5C38 2C=5C6E 2D=5C71 2E=5DDB 2F=5DE5 30=5DF1 31=5DFE 32=5E72 33=5E7A 34=5E7F 35=5EF4
    36=5EFE 37=5F0B 38=5F13 39=5F50 3A=5F61 3B=5F73 3C=5FC3 3D=6208 3E=6236 3F=624B 40=652F
    41=6534 42=6587 43=6597 44=65A4 45=65B9 46=65E0 47=65E5 48=66F0 49=6708 4A=6728 4B=6B20
    4C=6B62 4D=6B79 4E=6BB3 4F=6BCB 50=6BD4 51=6BDB 52=6C0F 53=6C14 54=6C34 55=706B 56=722A
    57=7236 58=723B 59=723F 5A=7247 5B=7259 5C=725B 5D=72AC 5E=7384 5F=7389 60=74DC 61=74E6
    62=7518 63=751F 64=7528 65=7530 66=758B 67=7592 68=7676 69=767D 6A=76AE 6B=76BF 6C=76EE
    6D=77DB 6E=77E2 6F=77F3 70=793A 71=79B8 72=79BE 73=7A74 74=7ACB 75=7AF9 76=7C73 77=7CF8
    78=7F36 79=7F51 7A=7F8A 7B=7FBD 7C=8001 7D=800C 7E=8012 7F=8033 80=807F 81=8089 82=81E3
    83=81EA 84=81F3 85=81FC 86=820C 87=821B 88=821F 89=826E 8A=8272 8B=8278 8C=864D 8D=866B
    8E=8840 8F=884C 90=8863 91=897E 92=898B 93=89D2 94=8A00 95=8C37 96=8C46 97=8C55 98=8C78
    99=8C9D 9A=8D64 9B=8D70 9C=8DB3 9D=8EAB 9E=8ECA 9F=8F9B A0=8FB0 A1=8FB5 A2=9091 A3=9149
    A4=91C6 A5=91CC A6=91D1 A7=9577 A8=9580 A9=961C AA=96B6 AB=96B9 AC=96E8 AD=9751 AE=975E
    AF=9762 B0=9769 B1=97CB B2=97ED B3=97F3 B4=9801 B5=98A8 B6=98DB B7=98DF B8=9996 B9=9999
    BA=99AC BB=9AA8 BC=9AD8 BD=9ADF BE=9B25 BF=9B2F C0=9B32 C1=9B3C C2=9B5A C3=9CE5 C4=9E75
    C5=9E7F C6=9EA5 C7=9EBB C8=9EC3 C9=9ECD CA=9ED1 CB=9EF9 CC=9EFD CD=9F0E CE=9F13 CF=9F20
    D0=9F3B D1=9F4A D2=9F52 D3=9F8D D4=9F9C D5=9FA0 D6-FF!"⟩,
  ⟨0x30, 0x30, "00=20 02=2E 36=3012 38=5341 39-3A:5344 40! 97-98! 9B=20,3099 9C=20,309A
    9F=3088,308A FF=30B3,30C8"⟩,
  ⟨0x31, 0x31, "00-04! 30! 31-32:1100 33-35/11AA 34=1102 36=11AD 37-39:1103 3A-3F:11B0 40=111A
    41-43:1106 44=1121 45-4E:1109 4F-63:1161 64. 65-66:1114 67-68:11C7 69=11CC 6A=11CE 6B=11D3
    6C=11D7 6D=11D9 6E=111C 6F=11DD 70=11DF 71-72:111D 73=1120 74-75:1122 76=1127 77=1129
    78-7C:112B 7D=1132 7E=1136 7F=1140 80=1147 81=114C 82-83:11F1 84-86:1157 87-88:1184 89=1188
    8A-8B:1191 8C=1194 8D=119E 8E=11A1 8F! 92=4E00 93=4E8C 94=4E09 95=56DB 96=4E0A 97=4E2D
    98=4E0B 99=7532 9A=4E59 9B=4E19 9C=4E01 9D=5929 9E=5730 9F=4EBA E6-EF!"⟩,
  ⟨0x32, 0x32, "00=28,1100,29 01=28,1102,29 02=28,1103,29 03=28,1105,29 04=28,1106,29
    05=28,1107,29 06=28,1109,29 07=28,110B,29 08=28,110C,29 09=28,110E,29 0A=28,110F,29
    0B=28,1110,29 0C=28,1111,29 0D=28,1112,29 0E=28,AC00,29 0F=28,B098,29 10=28,B2E4,29
    11=28,B77C,29 12=28,B9C8,29 13=28,BC14,29 14=28,C0AC,29 15=28,C544,29 16=28,C790,29
    17=28,CC28,29 18=28,CE74,29 19=28,D0C0,29 1A=28,D30C,29 1B=28,D558,29 1C=28,C8FC,29
    1D=28,C624,C804,29 1E=28,C624,D6C4,29 1F! 20=28,4E00,29 21=28,4E8C,29 22=28,4E09,29
    23=28,56DB,29 24=28,4E94,29 25=28,516D,29 26=28,4E03,29 27=28,516B,29 28=28,4E5D,29
    29=28,5341,29 2A=28,6708,29 2B=28,706B,29 2C=28,6C34,29 2D=28,6728,29 2E=28,91D1,29
    2F=28,571F,29 30=28,65E5,29 31=28,682A,29 32=28,6709,29 33=28,793E,29 34=28,540D,29
    35=28,7279,29 36=28,8CA1,29 37=28,795D,29 38=28,52B4,29 39=28,4EE3,29 3A=28,547C,29
    3B=28,5B66,29 3C=28,76E3,29 3D=28,4F01,29 3E=28,8CC7,29 3F=28,5354,29 40=28,796D,29
    41=28,4F11,29 42=28,81EA,29 43=28,81F3,29 44=554F 45=5E7C 46=6587 47=7B8F 50=70,74,65
    51=32,31 52=32,32 53=32,33 54=32,34 55=32,35 56=32,36 57=32,37 58=32,38 59=32,39 5A=33,30
    5B=33,31 5C=33,32 5D=33,33 5E=33,34 5F=33,35 60=1100 61-62:1102 63-65:1105 66=1109
    67-68:110B 69-6D:110E 6E=AC00 6F=B098 70=B2E4 71=B77C 72=B9C8 73=BC14 74=C0AC 75=C544
    76=C790 77=CC28 78=CE74 79=D0C0 7A=D30C 7B=D558 7C=CC38,ACE0 7D=C8FC,C758 7E=C6B0 80=4E00
    81=4E8C 82=4E09 83=56DB 84=4E94 85=516D 86=4E03 87=516B 88=4E5D 89=5341 8A=6708 8B=706B
    8C=6C34 8D=6728 8E=91D1 8F=571F 90=65E5 91=682A 92=6709 93=793E 94=540D 95=7279 96=8CA1
    97=795D 98=52B4 99=79D8 9A=7537 9B=5973 9C=9069 9D=512A 9E=5370 9F=6CE8 A0=9805 A1=4F11
    A2=5199 A3=6B63 A4=4E0A A5=4E2D A6=4E0B A7=5DE6 A8=53F3 A9=533B AA=5B97 AB=5B66 AC=76E3
    AD=4F01 AE=8CC7 AF=5354 B0=591C B1=33,36 B2=33,37 B3=33,38 B4=33,39 B5=34,30 B6=34,31
    B7=34,32 B8=34,33 B9=34,34 BA=34,35 BB=34,36 BC=34,37 BD=34,38 BE=34,39 BF=35,30 C0=31,6708
    C1=32,6708 C2=33,6708 C3=34,6708 C4=35,6708 C5=36,6708 C6=37,6708 C7=38,6708 C8=39,6708
    C9=31,30,6708 CA=31,31,6708 CB=31,32,6708 CC=68,67 CD=65,72,67 CE=65,76 CF=6C,74,64 D0=30A2
    D1=30A4 D2=30A6 D3=30A8 D4-D5:30AA D6=30AD D7=30AF D8=30B1 D9=30B3 DA=30B5 DB=30B7 DC=30B9
    DD=30BB DE=30BD DF=30BF E0=30C1 E1=30C4 E2=30C6 E3=30C8 E4-E9:30CA EA=30D2 EB=30D5 EC=30D8
    ED=30DB EE-F2:30DE F3=30E4 F4=30E6 F5-FA:30E8 FB-FE:30EF FF=4EE4,548C"⟩,
  ⟨0x33, 0x33, "00=30A2,30D1,30FC,30C8 01=30A2,30EB,30D5,30A1 02=30A2,30F3,30DA,30A2
    03=30A2,30FC,30EB 04=30A4,30CB,30F3,30B0 05=30A4,30F3,30C1 06=30A6,30A9,30F3
    07=30A8,30B9,30AF,30FC,30C9 08=30A8,30FC,30AB,30FC 09=30AA,30F3,30B9 0A=30AA,30FC,30E0
    0B=30AB,30A4,30EA 0C=30AB,30E9,30C3,30C8 0D=30AB,30ED,30EA,30FC 0E=30AC,30ED,30F3
    0F=30AC,30F3,30DE 10=30AE,30AC 11=30AE,30CB,30FC 12=30AD,30E5,30EA,30FC
    13=30AE,30EB,30C0,30FC 14=30AD,30ED 15=30AD,30ED,30B0,30E9,30E0
    16=30AD,30ED,30E1,30FC,30C8,30EB 17=30AD,30ED,30EF,30C3,30C8 18=30B0,30E9,30E0
    19=30B0,30E9,30E0,30C8,30F3 1A=30AF,30EB,30BC,30A4,30ED 1B=30AF,30ED,30FC,30CD
    1C=30B1,30FC,30B9 1D=30B3,30EB,30CA 1E=30B3,30FC,30DD 1F=30B5,30A4,30AF,30EB
    20=30B5,30F3,30C1,30FC,30E0 21=30B7,30EA,30F3,30B0 22=30BB,30F3,30C1 23=30BB,30F3,30C8
    24=30C0,30FC,30B9 25=30C7,30B7 26=30C9,30EB 27=30C8,30F3 28=30CA,30CE 29=30CE,30C3,30C8
    2A=30CF,30A4,30C4 2B=30D1,30FC,30BB,30F3,30C8 2C=30D1,30FC,30C4 2D=30D0,30FC,30EC,30EB
    2E=30D4,30A2,30B9,30C8,30EB 2F=30D4,30AF,30EB 30=30D4,30B3 31=30D3,30EB
    32=30D5,30A1,30E9,30C3,30C9 33=30D5,30A3,30FC,30C8 34=30D6,30C3,30B7,30A7,30EB
    35=30D5,30E9,30F3 36=30D8,30AF,30BF,30FC,30EB 37=30DA,30BD 38=30DA,30CB,30D2
    39=30D8,30EB,30C4 3A=30DA,30F3,30B9 3B=30DA,30FC,30B8 3C=30D9,30FC,30BF
    3D=30DD,30A4,30F3,30C8 3E=30DC,30EB,30C8 3F=30DB,30F3 40=30DD,30F3,30C9 41=30DB,30FC,30EB
    42=30DB,30FC,30F3 43=30DE,30A4,30AF,30ED 44=30DE,30A4,30EB 45=30DE,30C3,30CF
    46=30DE,30EB,30AF 47=30DE,30F3,30B7,30E7,30F3 48=30DF,30AF,30ED,30F3 49=30DF,30EA
    4A=30DF,30EA,30D0,30FC,30EB 4B=30E1,30AC 4C=30E1,30AC,30C8,30F3 4D=30E1,30FC,30C8,30EB
    4E=30E4,30FC,30C9 4F=30E4,30FC,30EB 50=30E6,30A2,30F3 51=30EA,30C3,30C8,30EB 52=30EA,30E9
    53=30EB,30D4,30FC 54=30EB,30FC,30D6,30EB 55=30EC,30E0 56=30EC,30F3,30C8,30B2,30F3
    57=30EF,30C3,30C8 58=30,70B9 59=31,70B9 5A=32,70B9 5B=33,70B9 5C=34,70B9 5D=35,70B9
    5E=36,70B9 5F=37,70B9 60=38,70B9 61=39,70B9 62=31,30,70B9 63=31,31,70B9 64=31,32,70B9
    65=31,33,70B9 66=31,34,70B9 67=31,35,70B9 68=31,36,70B9 69=31,37,70B9 6A=31,38,70B9
    6B=31,39,70B9 6C=32,30,70B9 6D=32,31,70B9 6E=32,32,70B9 6F=32,33,70B9 70=32,34,70B9
    71=68,70,61 72=64,61 73=61,75 74=62,61,72 75=6F,76 76=70,63 77=64,6D 78=64,6D,32 79=64,6D,33
    7A=69,75 7B=5E73,6210 7C=662D,548C 7D=5927,6B63 7E=660E,6CBB 7F=682A,5F0F,4F1A,793E 80=70,61
    81=6E,61 82=3BC,61 83=6D,61 84=6B,61 85=6B,62 86=6D,62 87=67,62 88=63,61,6C 89=6B,63,61,6C
    8A=70,66 8B=6E,66 8C=3BC,66 8D=3BC,67 8E=6D,67 8F=6B,67 90=68,7A 91=6B,68,7A 92=6D,68,7A
    93=67,68,7A 94=74,68,7A 95=3BC,6C 96=6D,6C 97=64,6C 98=6B,6C 99=66,6D 9A=6E,6D 9B=3BC,6D
    9C=6D,6D 9D=63,6D 9E=6B,6D 9F=6D,6D,32 A0=63,6D,32 A1=6D,32 A2=6B,6D,32 A3=6D,6D,33
    A4=63,6D,33 A5=6D,33 A6=6B,6D,33 A7=6D,2215,73 A8=6D,2215,73,32 A9=70,61 AA=6B,70,61
    AB=6D,70,61 AC=67,70,61 AD=72,61,64 AE=72,61,64,2215,73 AF=72,61,64,2215,73,32 B0=70,73
    B1=6E,73 B2=3BC,73 B3=6D,73 B4=70,76 B5=6E,76 B6=3BC,76 B7=6D,76 B8=6B,76 B9=6D,76 BA=70,77
    BB=6E,77 BC=3BC,77 BD=6D,77 BE=6B,77 BF=6D,77 C0=6B,3C9 C1=6D,3C9 C2! C3=62,71 C4=63,63
    C5=63,64 C6=63,2215,6B,67 C7! C8=64,62 C9=67,79 CA=68,61 CB=68,70 CC=69,6E CD=6B,6B CE=6B,6D
    CF=6B,74 D0=6C,6D D1=6C,6E D2=6C,6F,67 D3=6C,78 D4=6D,62 D5=6D,69,6C D6=6D,6F,6C D7=70,68
    D8! D9=70,70,6D DA=70,72 DB=73,72 DC=73,76 DD=77,62 DE=76,2215,6D DF=61,2215,6D E0=31,65E5
    E1=32,65E5 E2=33,65E5 E3=34,65E5 E4=35,65E5 E5=36,65E5 E6=37,65E5 E7=38,65E5 E8=39,65E5
    E9=31,30,65E5 EA=31,31,65E5 EB=31,32,65E5 EC=31,33,65E5 ED=31,34,65E5 EE=31,35,65E5
    EF=31,36,65E5 F0=31,37,65E5 F1=31,38,65E5 F2=31,39,65E5 F3=32,30,65E5 F4=32,31,65E5
    F5=32,32,65E5 F6=32,33,65E5 F7=32,34,65E5 F8=32,35,65E5 F9=32,36,65E5 FA=32,37,65E5
    FB=32,38,65E5 FC=32,39,65E5 FD=33,30,65E5 FE=33,31,65E5 FF=67,61,6C"⟩,
  ⟨0xA4, 0xA4, "8D-8F! C7-CF!"⟩,
  ⟨0xA6, 0xA6, "2C-3F! 40-6C/A641 80-9A/A681 9C=44A 9D=44C F8-FF!"⟩,
  ⟨0xA7, 0xA7, "22-2E/A723 32-6E/A733 70=A76F 79-7B/A77A 7D=1D79 7E-86/A77F 8B=A78C 8D=265
    90-92/A791 96-A8/A797 AA=266 AB=25C AC=261 AD=26C AE=26A B0=29E B1=287 B2=29D B3=AB53
    B4-C2/A7B5 C4=A794 C5=282 C6=1D8E C7-C9/A7C8 CB=264 CC-DA/A7CD DC=19B DD-F0! F1=73 F2=63
    F3=66 F4=71 F5=A7F6 F8=127 F9=153"⟩,
  ⟨0xA8, 0xA8, "2D-2F! 3A-3F! 78-7F! C6-CD! DA-DF!"⟩,
  ⟨0xA9, 0xA9, "54-5E! 7D-7F! CE! DA-DD! FF!"⟩,
  ⟨0xAA, 0xAA, "37-3F! 4E-4F! 5A-5B! C3-DA! F7-FF!"⟩,
  ⟨0xAB, 0xAB, "00! 07-08! 0F-10! 17-1F! 27! 2F! 5C=A727 5D=AB37 5E=26B 5F=AB52 69=28D 6C-6F!
    70-BF:13A0 EE-EF! FA-FF!"⟩,
  ⟨0xD7, 0xD7, "A4-AF! C7-CA! FC-FF!"⟩,
  ⟨0xD8, 0xF8, "00-FF!"⟩,
  ⟨0xF9, 0xF9, "00=8C48 01=66F4 02=8ECA 03=8CC8 04=6ED1 05=4E32 06=53E5 07-08=9F9C 09=5951
    0A=91D1 0B=5587 0C=5948 0D=61F6 0E=7669 0F=7F85 10=863F 11=87BA 12=88F8 13=908F 14=6A02
    15=6D1B 16=70D9 17=73DE 18=843D 19=916A 1A=99F1 1B=4E82 1C=5375 1D=6B04 1E=721B 1F=862D
    20=9E1E 21=5D50 22=6FEB 23=85CD 24=8964 25=62C9 26=81D8 27=881F 28=5ECA 29=6717 2A=6D6A
    2B=72FC 2C=90CE 2D=4F86 2E=51B7 2F=52DE 30=64C4 31=6AD3 32=7210 33=76E7 34=8001 35=8606
    36=865C 37=8DEF 38=9732 39=9B6F 3A=9DFA 3B=788C 3C=797F 3D=7DA0 3E=83C9 3F=9304 40=9E7F
    41=8AD6 42=58DF 43=5F04 44=7C60 45=807E 46=7262 47=78CA 48=8CC2 49=96F7 4A=58D8 4B=5C62
    4C=6A13 4D=6DDA 4E=6F0F 4F=7D2F 50=7E37 51=964B 52=52D2 53=808B 54=51DC 55=51CC 56=7A1C
    57=7DBE 58=83F1 59=9675 5A=8B80 5B=62CF 5C=6A02 5D=8AFE 5E=4E39 5F=5BE7 60=6012 61=7387
    62=7570 63=5317 64=78FB 65=4FBF 66=5FA9 67=4E0D 68=6CCC 69=6578 6A=7D22 6B=53C3 6C=585E
    6D=7701 6E=8449 6F=8AAA 70=6BBA 71=8FB0 72=6C88 73=62FE 74=82E5 75=63A0 76=7565 77=4EAE
    78=5169 79=51C9 7A=6881 7B=7CE7 7C=826F 7D=8AD2 7E=91CF 7F=52F5 80=5442 81=5973 82=5EEC
    83=65C5 84=6FFE 85=792A 86=95AD 87=9A6A 88=9E97 89=9ECE 8A=529B 8B=66C6 8C=6B77 8D=8F62
    8E=5E74 8F=6190 90=6200 91=649A 92=6F23 93=7149 94=7489 95=79CA 96=7DF4 97=806F 98=8F26
    99=84EE 9A=9023 9B=934A 9C=5217 9D=52A3 9E=54BD 9F=70C8 A0=88C2 A1=8AAA A2=5EC9 A3=5FF5
    A4=637B A5=6BAE A6=7C3E A7=7375 A8=4EE4 A9=56F9 AA=5BE7 AB=5DBA AC=601C AD=73B2 AE=7469
    AF=7F9A B0=8046 B1=9234 B2=96F6 B3=9748 B4=9818 B5=4F8B B6=79AE B7=91B4 B8=96B8 B9=60E1
    BA=4E86 BB=50DA BC=5BEE BD=5C3F BE=6599 BF=6A02 C0=71CE C1=7642 C2=84FC C3=907C C4=9F8D
    C5=6688 C6=962E C7=5289 C8=677B C9=67F3 CA=6D41 CB=6E9C CC=7409 CD=7559 CE=786B CF=7D10
    D0=985E D1=516D D2=622E D3=9678 D4=502B D5=5D19 D6=6DEA D7=8F2A D8=5F8B D9=6144 DA=6817
    DB=7387 DC=9686 DD=5229 DE=540F DF=5C65 E0=6613 E1=674E E2=68A8 E3=6CE5 E4=7406 E5=75E2
    E6=7F79 E7=88CF E8=88E1 E9=91CC EA=96E2 EB=533F EC=6EBA ED=541D EE=71D0 EF=7498 F0=85FA
    F1=96A3 F2=9C57 F3=9E9F F4=6797 F5=6DCB F6=81E8 F7=7ACB F8=7B20 F9=7C92 FA=72C0 FB=7099
    FC=8B58 FD=4EC0 FE=8336 FF=523A"⟩,
  ⟨0xFA, 0xFA, "00=5207 01=5EA6 02=62D3 03=7CD6 04=5B85 05=6D1E 06=66B4 07=8F3B 08=884C 09=964D
    0A=898B 0B=5ED3 0C=5140 0D=55C0 10=585A 12=6674 15=51DE 16=732A 17=76CA 18=793C 19=795E
    1A=7965 1B=798F 1C=9756 1D=7CBE 1E=7FBD 20=8612 22=8AF8 25=9038 26=90FD 2A=98EF 2B=98FC
    2C=9928 2D=9DB4 2E=90DE 2F=96B7 30=4FAE 31=50E7 32=514D 33=52C9 34=52E4 35=5351 36=559D
    37=5606 38=5668 39=5840 3A=58A8 3B=5C64 3C=5C6E 3D=6094 3E=6168 3F=618E 40=61F2 41=654F
    42=65E2 43=6691 44=6885 45=6D77 46=6E1A 47=6F22 48=716E 49=722B 4A=7422 4B=7891 4C=793E
    4D=7949 4E=7948 4F=7950 50=7956 51=795D 52-53:798D 54=7A40 55=7A81 56=7BC0 57=7DF4 58=7E09
    59=7E41 5A=7F72 5B=8005 5C=81ED 5D-5E=8279 5F=8457 60=8910 61=8996 62=8B01 63=8B39 64=8CD3
    65=8D08 66=8FB6 67=9038 68=96E3 69=97FF 6A=983B 6B=6075 6C=242EE 6D=8218 6E-6F! 70=4E26
    71=51B5 72=5168 73=4F80 74=5145 75=5180 76=52C7 77=52FA 78=559D 79=5555 7A=5599 7B=55E2
    7C=585A 7D=58B3 7E=5944 7F=5954 80=5A62 81=5B28 82=5ED2 83=5ED9 84=5F69 85=5FAD 86=60D8
    87=614E 88=6108 89=618E 8A=6160 8B=61F2 8C=6234 8D=63C4 8E=641C 8F=6452 90=6556 91=6674
    92=6717 93=671B 94=6756 95=6B79 96=6BBA 97=6D41 98=6EDB 99=6ECB 9A=6F22 9B=701E 9C=716E
    9D=77A7 9E=7235 9F=72AF A0=732A A1=7471 A2=7506 A3=753B A4=761D A5=761F A6=76CA A7=76DB
    A8=76F4 A9=774A AA=7740 AB=78CC AC=7AB1 AD=7BC0 AE=7C7B AF=7D5B B0=7DF4 B1=7F3E B2=8005
    B3=8352 B4=83EF B5=8779 B6=8941 B7=8986 B8=8996 B9=8ABF BA=8AF8 BB=8ACB BC=8B01 BD=8AFE
    BE=8AED BF=8B39 C0=8B8A C1=8D08 C2=8F38 C3=9072 C4=9199 C5=9276 C6=967C C7=96E3 C8=9756
    C9=97DB CA=97FF CB=980B CC=983B CD=9B12 CE=9F9C CF=2284A D0=22844 D1=233D5 D2=3B9D D3=4018
    D4=4039 D5=25249 D6=25CD0 D7=27ED3 D8=9F43 D9=9F8E DA-FF!"⟩,
  ⟨0xFB, 0xFB, "00=66,66 01=66,69 02=66,6C 03=66,66,69 04=66,66,6C 05-06=73,74 07-12! 13=574,576
    14=574,565 15=574,56B 16=57E,576 17=574,56D 18-1C! 1D=5D9,5B4 1F=5F2,5B7 20=5E2 21=5D0
    22-23:5D3 24-26:5DB 27=5E8 28=5EA 29=2B 2A=5E9,5C1 2B=5E9,5C2 2C=5E9,5BC,5C1 2D=5E9,5BC,5C2
    2E=5D0,5B7 2F=5D0,5B8 30=5D0,5BC 31=5D1,5BC 32=5D2,5BC 33=5D3,5BC 34=5D4,5BC 35=5D5,5BC
    36=5D6,5BC 37! 38=5D8,5BC 39=5D9,5BC 3A=5DA,5BC 3B=5DB,5BC 3C=5DC,5BC 3D! 3E=5DE,5BC 3F!
    40=5E0,5BC 41=5E1,5BC 42! 43=5E3,5BC 44=5E4,5BC 45! 46=5E6,5BC 47=5E7,5BC 48=5E8,5BC
    49=5E9,5BC 4A=5EA,5BC 4B=5D5,5B9 4C=5D1,5BF 4D=5DB,5BF 4E=5E4,5BF 4F=5D0,5DC 50-51=671
    52-55=67B 56-59=67E 5A-5D=680 5E-61=67A 62-65=67F 66-69=679 6A-6D=6A4 6E-71=6A6 72-75=684
    76-79=683 7A-7D=686 7E-81=687 82-83=68D 84-85=68C 86-87=68E 88-89=688 8A-8B=698 8C-8D=691
    8E-91=6A9 92-95=6AF 96-99=6B3 9A-9D=6B1 9E-9F=6BA A0-A3=6BB A4-A5=6C0 A6-A9=6C1 AA-AD=6BE
    AE-AF=6D2 B0-B1=6D3 D3-D6=6AD D7-D8=6C7 D9-DA=6C6 DB-DC=6C8 DD=6C7,674 DE-DF=6CB E0-E1=6C5
    E2-E3=6C9 E4-E7=6D0 E8-E9=649 EA-EB=626,627 EC-ED=626,6D5 EE-EF=626,648 F0-F1=626,6C7
    F2-F3=626,6C6 F4-F5=626,6C8 F6-F8=626,6D0 F9-FB=626,649 FC-FF=6CC"⟩,
  ⟨0xFC, 0xFC, "00=626,62C 01=626,62D 02=626,645 03=626,649 04=626,64A 05=628,62C 06=628,62D
    07=628,62E 08=628,645 09=628,649 0A=628,64A 0B=62A,62C 0C=62A,62D 0D=62A,62E 0E=62A,645
    0F=62A,649 10=62A,64A 11=62B,62C 12=62B,645 13=62B,649 14=62B,64A 15=62C,62D 16=62C,645
    17=62D,62C 18=62D,645 19=62E,62C 1A=62E,62D 1B=62E,645 1C=633,62C 1D=633,62D 1E=633,62E
    1F=633,645 20=635,62D 21=635,645 22=636,62C 23=636,62D 24=636,62E 25=636,645 26=637,62D
    27=637,645 28=638,645 29=639,62C 2A=639,645 2B=63A,62C 2C=63A,645 2D=641,62C 2E=641,62D
    2F=641,62E 30=641,645 31=641,649 32=641,64A 33=642,62D 34=642,645 35=642,649 36=642,64A
    37=643,627 38=643,62C 39=643,62D 3A=643,62E 3B=643,644 3C=643,645 3D=643,649 3E=643,64A
    3F=644,62C 40=644,62D 41=644,62E 42=644,645 43=644,649 44=644,64A 45=645,62C 46=645,62D
    47=645,62E 48=645,645 49=645,649 4A=645,64A 4B=646,62C 4C=646,62D 4D=646,62E 4E=646,645
    4F=646,649 50=646,64A 51=647,62C 52=647,645 53=647,649 54=647,64A 55=64A,62C 56=64A,62D
    57=64A,62E 58=64A,645 59=64A,649 5A=64A,64A 5B=630,670 5C=631,670 5D=649,670 5E=20,64C,651
    5F=20,64D,651 60=20,64E,651 61=20,64F,651 62=20,650,651 63=20,651,670 64=626,631 65=626,632
    66=626,645 67=626,646 68=626,649 69=626,64A 6A=628,631 6B=628,632 6C=628,645 6D=628,646
    6E=628,649 6F=628,64A 70=62A,631 71=62A,632 72=62A,645 73=62A,646 74=62A,649 75=62A,64A
    76=62B,631 77=62B,632 78=62B,645 79=62B,646 7A=62B,649 7B=62B,64A 7C=641,649 7D=641,64A
    7E=642,649 7F=642,64A 80=643,627 81=643,644 82=643,645 83=643,649 84=643,64A 85=644,645
    86=644,649 87=644,64A 88=645,627 89=645,645 8A=646,631 8B=646,632 8C=646,645 8D=646,646
    8E=646,649 8F=646,64A 90=649,670 91=64A,631 92=64A,632 93=64A,645 94=64A,646 95=64A,649
    96=64A,64A 97=626,62C 98=626,62D 99=626,62E 9A=626,645 9B=626,647 9C=628,62C 9D=628,62D
    9E=628,62E 9F=628,645 A0=628,647 A1=62A,62C A2=62A,62D A3=62A,62E A4=62A,645 A5=62A,647
    A6=62B,645 A7=62C,62D A8=62C,645 A9=62D,62C AA=62D,645 AB=62E,62C AC=62E,645 AD=633,62C
    AE=633,62D AF=633,62E B0=633,645 B1=635,62D B2=635,62E B3=635,645 B4=636,62C B5=636,62D
    B6=636,62E B7=636,645 B8=637,62D B9=638,645 BA=639,62C BB=639,645 BC=63A,62C BD=63A,645
    BE=641,62C BF=641,62D C0=641,62E C1=641,645 C2=642,62D C3=642,645 C4=643,62C C5=643,62D
    C6=643,62E C7=643,644 C8=643,645 C9=644,62C CA=644,62D CB=644,62E CC=644,645 CD=644,647
    CE=645,62C CF=645,62D D0=645,62E D1=645,645 D2=646,62C D3=646,62D D4=646,62E D5=646,645
    D6=646,647 D7=647,62C D8=647,645 D9=647,670 DA=64A,62C DB=64A,62D DC=64A,62E DD=64A,645
    DE=64A,647 DF=626,645 E0=626,647 E1=628,645 E2=628,647 E3=62A,645 E4=62A,647 E5=62B,645
    E6=62B,647 E7=633,645 E8=633,647 E9=634,645 EA=634,647 EB=643,644 EC=643,645 ED=644,645
    EE=646,645 EF=646,647 F0=64A,645 F1=64A,647 F2=640,64E,651 F3=640,64F,651 F4=640,650,651
    F5=637,649 F6=637,64A F7=639,649 F8=639,64A F9=63A,649 FA=63A,64A FB=633,649 FC=633,64A
    FD=634,649 FE=634,64A FF=62D,649"⟩,
  ⟨0xFD, 0xFD, "00=62D,64A 01=62C,649 02=62C,64A 03=62E,649 04=62E,64A 05=635,649 06=635,64A
    07=636,649 08=636,64A 09=634,62C 0A=634,62D 0B=634,62E 0C=634,645 0D=634,631 0E=633,631
    0F=635,631 10=636,631 11=637,649 12=637,64A 13=639,649 14=639,64A 15=63A,649 16=63A,64A
    17=633,649 18=633,64A 19=634,649 1A=634,64A 1B=62D,649 1C=62D,64A 1D=62C,649 1E=62C,64A
    1F=62E,649 20=62E,64A 21=635,649 22=635,64A 23=636,649 24=636,64A 25=634,62C 26=634,62D
    27=634,62E 28=634,645 29=634,631 2A=633,631 2B=635,631 2C=636,631 2D=634,62C 2E=634,62D
    2F=634,62E 30=634,645 31=633,647 32=634,647 33=637,645 34=633,62C 35=633,62D 36=633,62E
    37=634,62C 38=634,62D 39=634,62E 3A=637,645 3B=638,645 3C-3D=627,64B 50=62A,62C,645
    51-52=62A,62D,62C 53=62A,62D,645 54=62A,62E,645 55=62A,645,62C 56=62A,645,62D 57=62A,645,62E
    58-59=62C,645,62D 5A=62D,645,64A 5B=62D,645,649 5C=633,62D,62C 5D=633,62C,62D 5E=633,62C,649
    5F-60=633,645,62D 61=633,645,62C 62-63=633,645,645 64-65=635,62D,62D 66=635,645,645
    67-68=634,62D,645 69=634,62C,64A 6A-6B=634,645,62E 6C-6D=634,645,645 6E=636,62D,649
    6F-70=636,62E,645 71-72=637,645,62D 73=637,645,645 74=637,645,64A 75=639,62C,645
    76-77=639,645,645 78=639,645,649 79=63A,645,645 7A=63A,645,64A 7B=63A,645,649
    7C-7D=641,62E,645 7E=642,645,62D 7F=642,645,645 80=644,62D,645 81=644,62D,64A 82=644,62D,649
    83-84=644,62C,62C 85-86=644,62E,645 87-88=644,645,62D 89=645,62D,62C 8A=645,62D,645
    8B=645,62D,64A 8C=645,62C,62D 8D=645,62C,645 8E=645,62E,62C 8F=645,62E,645 92=645,62C,62E
    93=647,645,62C 94=647,645,645 95=646,62D,645 96=646,62D,649 97-98=646,62C,645 99=646,62C,649
    9A=646,645,64A 9B=646,645,649 9C-9D=64A,645,645 9E=628,62E,64A 9F=62A,62C,64A A0=62A,62C,649
    A1=62A,62E,64A A2=62A,62E,649 A3=62A,645,64A A4=62A,645,649 A5=62C,645,64A A6=62C,62D,649
    A7=62C,645,649 A8=633,62E,649 A9=635,62D,64A AA=634,62D,64A AB=636,62D,64A AC=644,62C,64A
    AD=644,645,64A AE=64A,62D,64A AF=64A,62C,64A B0=64A,645,64A B1=645,645,64A B2=642,645,64A
    B3=646,62D,64A B4=642,645,62D B5=644,62D,645 B6=639,645,64A B7=643,645,64A B8=646,62C,62D
    B9=645,62E,64A BA=644,62C,645 BB=643,645,645 BC=644,62C,645 BD=646,62C,62D BE=62C,62D,64A
    BF=62D,62C,64A C0=645,62C,64A C1=641,645,64A C2=628,62D,64A C3=643,645,645 C4=639,62C,645
    C5=635,645,645 C6=633,62E,64A C7=646,62C,64A D0-EF! F0=635,644,6D2 F1=642,644,6D2
    F2=627,644,644,647 F3=627,643,628,631 F4=645,62D,645,62F F5=635,644,639,645
    F6=631,633,648,644 F7=639,644,64A,647 F8=648,633,644,645 F9=635,644,649
    FA=635,644,649,20,627,644,644,647,20,639,644,64A,647,20,648,633,644,645
    FB=62C,644,20,62C,644,627,644,647 FC=631,6CC,627,644"⟩,
  ⟨0xFE, 0xFE, "00-0F. 10=2C 11=3001 12! 13-14:3A 15=21 16=3F 17-18:3016 19-1F! 30! 31=2014
    32=2013 33-34=5F 35-36:28 37=7B 38=7D 39-3A:3014 3B-3C:3010 3D-3E:300A 3F-40:3008 41-44:300C
    47=5B 48=5D 49-4C=20,305 4D-4F=5F 50=2C 51=3001 52-53! 54=3B 55=3A 56=3F 57=21 58=2014
    59-5A:28 5B=7B 5C=7D 5D-5E:3014 5F=23 60=26 61-62:2A 63=2D 64=3C 65=3E 66=3D 67! 68=5C
    69-6A:24 6B=40 6C-6F! 70=20,64B 71=640,64B 72=20,64C 74=20,64D 75! 76=20,64E 77=640,64E
    78=20,64F 79=640,64F 7A=20,650 7B=640,650 7C=20,651 7D=640,651 7E=20,652 7F=640,652
    80-81:621 82-83:622 84-85:623 86-87:624 88-89:625 8A-8C=626 8D-8E=627 8F-92=628 93-94=629
    95-98=62A 99-9C=62B 9D-A0=62C A1-A4=62D A5-A8=62E A9-AA=62F AB-AC=630 AD-AE=631 AF-B0=632
    B1-B4=633 B5-B8=634 B9-BC=635 BD-C0=636 C1-C4=637 C5-C8=638 C9-CC=639 CD-D0=63A D1-D4=641
    D5-D8=642 D9-DC=643 DD-E0=644 E1-E4=645 E5-E8=646 E9-EC=647 ED-EE=648 EF-F0=649 F1-F4=64A
    F5-F6=644,622 F7-F8=644,623 F9-FA=644,625 FB-FC=644,627 FD-FE! FF."⟩,
  ⟨0xFF, 0xFF, "00! 01-20:21 21-3A:61 3B-5E:5B 5F-60:2985 61=2E 62-63:300C 64=3001 65=30FB
    66=30F2 67=30A1 68=30A3 69=30A5 6A=30A7 6B=30A9 6C=30E3 6D=30E5 6E=30E7 6F=30C3 70=30FC
    71=30A2 72=30A4 73=30A6 74=30A8 75-76:30AA 77=30AD 78=30AF 79=30B1 7A=30B3 7B=30B5 7C=30B7
    7D=30B9 7E=30BB 7F=30BD 80=30BF 81=30C1 82=30C4 83=30C6 84=30C8 85-8A:30CA 8B=30D2 8C=30D5
    8D=30D8 8E=30DB 8F-93:30DE 94=30E4 95=30E6 96-9B:30E8 9C=30EF 9D=30F3 9E-9F:3099 A0.
    A1-A2:1100 A3-A5/11AA A4=1102 A6=11AD A7-A9:1103 AA-AF:11B0 B0=111A B1-B3:1106 B4=1121
    B5-BE:1109 BF-C1! C2-C7:1161 C8-C9! CA-CF:1167 D0-D1! D2-D7:116D D8-D9! DA-DC:1173 DD-DF!
    E0-E1:A2 E2=AC E3=20,304 E4=A6 E5=A5 E6=20A9 E7! E8=2502 E9-EC:2190 ED=25A0 EE=25CB EF-FF!"⟩,
  ⟨0x100, 0x100, "0C! 27! 3B! 3E! 4E-4F! 5E-7F! FB-FF!"⟩,
  ⟨0x101, 0x101, "03-06! 34-36! 8F! 9D-9F! A1-CF! FE-FF!"⟩,
  ⟨0x102, 0x102, "00-7F! 9D-9F! D1-DF! FC-FF!"⟩,
  ⟨0x103, 0x103, "24-2C! 4B-4F! 7B-7F! 9E! C4-C7! D6-FF!"⟩,
  ⟨0x104, 0x104, "00-27:10428 9E-9F! AA-AF! B0-D3:104D8 D4-D7! FC-FF!"⟩,
  ⟨0x105, 0x105, "28-2F! 64-6E! 70-94/10597 71-79/10598 7B! 7D-89/105A4 8B! 8D-91/105B4 93!
    95=105BC 96! A2! B2! BA! BD-BF! F4-FF!"⟩,
  ⟨0x107, 0x107, "37-3F! 56-5F! 68-7F! 81-82:2D0 83=E6 84=299 85=253 86! 87-89/2A3 88=AB66
    8A=2A4 8B-8C:256 8D=1D91 8E=258 8F=25E 90=2A9 91=264 92=262 93=260 94=29B 95=127 96=29C
    97=267 98=284 99-9A:2AA 9B=26C 9C=1DF04 9D=A78E 9E=26E 9F=1DF05 A0=28E A1=1DF06 A2=F8
    A3-A4:276 A5=71 A6=27A A7=1DF08 A8-A9:27D AA=280 AB=2A8 AC=2A6 AD=AB67 AE=2A7 AF=288 B0=2C71
    B1! B2=28F B3-B4:2A1 B5=298 B6-B8:1C0 B9=1DF0A BA=1DF1E BB-FF!"⟩,
  ⟨0x108, 0x108, "06-07! 09! 36! 39-3B! 3D-3E! 56! 9F-A6! B0-DF! F3! F6-FA!"⟩,
  ⟨0x109, 0x109, "1C-1E! 3A-3E! 5A-7F! B8-BB! D0-D1!"⟩,
  ⟨0x10A, 0x10A, "04! 07-0B! 14! 18! 36-37! 3B-3E! 49-4F! 59-5F! A0-BF! E7-EA! F7-FF!"⟩,
  ⟨0x10B, 0x10B, "36-38! 56-57! 73-77! 92-98! 9D-A8! B0-FF!"⟩,
  ⟨0x10C, 0x10C, "49-7F! 80-B2:10CC0 B3-BF! F3-F9!"⟩,
  ⟨0x10D, 0x10D, "28-2F! 3A-3F! 50-65:10D70 66-68! 86-8D! 90-FF!"⟩,
  ⟨0x10E, 0x10E, "00-5F! 7F! AA! AE-AF! B2-C1! C8-CF! D9-F9!"⟩,
  ⟨0x10F, 0x10F, "28-2F! 5A-6F! 8A-AF! CC-DF! F7-FF!"⟩,
  ⟨0x110, 0x110, "4E-51! 76-7E! BD! C3-CF! E9-EF! FA-FF!"⟩,
  ⟨0x111, 0x111, "35! 48-4F! 77-7F! E0! F5-FF!"⟩,
  ⟨0x112, 0x112, "12! 42-7F! 87! 89! 8E! 9E! AA-AF! EB-EF! FA-FF!"⟩,
  ⟨0x113, 0x113, "04! 0D-0E! 11-12! 29! 31! 34! 3A! 45-46! 49-4A! 4E-4F! 51-56! 58-5C! 64-65!
    6D-6F! 75-7F! 8A! 8C-8D! 8F! B6! C1! C3-C4! C6! CB! D6! D9-E0! E3-FF!"⟩,
  ⟨0x114, 0x114, "5C! 62-7F! C8-CF! DA-FF!"⟩,
  ⟨0x115, 0x115, "00-7F! B6-B7! DE-FF!"⟩,
  ⟨0x116, 0x116, "45-4F! 5A-5F! 6D-7F! BA-BF! CA-CF! E4-FF!"⟩,
  ⟨0x117, 0x117, "1B-1C! 2C-2F! 47-FF!"⟩,
  ⟨0x118, 0x118, "3C-9F! A0-BF:118C0 F3-FE!"⟩,
  ⟨0x119, 0x119, "07-08! 0A-0B! 14! 17! 36! 39-3A! 47-4F! 5A-9F! A8-A9! D8-D9! E5-FF!"⟩,
  ⟨0x11A, 0x11A, "48-4F! A3-AF! F9-FF!"⟩,
  ⟨0x11B, 0x11B, "0A-5F! 68-BF! E2-EF! FA-FF!"⟩,
  ⟨0x11C, 0x11C, "09! 37! 46-4F! 6D-6F! 90-91! A8! B7-FF!"⟩,
  ⟨0x11D, 0x11D, "07! 0A! 37-39! 3B! 3E! 48-4F! 5A-5F! 66! 69! 8F! 92! 99-9F! AA-AF! DC-DF!
    EA-FF!"⟩,
  ⟨0x11E, 0x11E, "00-DF! F9-FF!"⟩,
  ⟨0x11F, 0x11F, "11! 3B-3D! 5B-AF! B1-BF! F2-FE!"⟩,
  ⟨0x123, 0x123, "9A-FF!"⟩,
  ⟨0x124, 0x124, "6F! 75-7F!"⟩,
  ⟨0x125, 0x125, "44-FF!"⟩,
  ⟨0x126, 0x12E, "00-FF!"⟩,
  ⟨0x12F, 0x12F, "00-8F! F3-FF!"⟩,
  ⟨0x134, 0x134, "30-3F! 56-5F!"⟩,
  ⟨0x143, 0x143, "FB-FF!"⟩,
  ⟨0x146, 0x146, "47-FF!"⟩,
  ⟨0x147, 0x160, "00-FF!"⟩,
  ⟨0x161, 0x161, "3A-FF!"⟩,
  ⟨0x162, 0x167, "00-FF!"⟩,
  ⟨0x16A, 0x16A, "39-3F! 5F! 6A-6D! BF! CA-CF! EE-EF! F6-FF!"⟩,
  ⟨0x16B, 0x16B, "46-4F! 5A! 62! 78-7C! 90-FF!"⟩,
  ⟨0x16C, 0x16C, "00-FF!"⟩,
  ⟨0x16D, 0x16D, "00-3F! 7A-FF!"⟩,
  ⟨0x16E, 0x16E, "00-3F! 40-5F:16E60 9B-9F! A0-B8:16EBB B9-BA! D4-FF!"⟩,
  ⟨0x16F, 0x16F, "4B-4E! 88-8E! A0-DF! E5-EF! F7-FF!"⟩,
  ⟨0x18C, 0x18C, "D6-FE!"⟩,
  ⟨0x18D, 0x18D, "1F-7F! F3-FF!"⟩,
  ⟨0x18E, 0x1AE, "00-FF!"⟩,
  ⟨0x1AF, 0x1AF, "00-EF! F4! FC! FF!"⟩,
  ⟨0x1B1, 0x1B1, "23-31! 33-4F! 53-54! 56-63! 68-6F!"⟩,
  ⟨0x1B2, 0x1B2, "FC-FF!"⟩,
  ⟨0x1B3, 0x1BB, "00-FF!"⟩,
  ⟨0x1BC, 0x1BC, "6B-6F! 7D-7F! 89-8F! 9A-9B! A0-A3. A4-FF!"⟩,
  ⟨0x1BD, 0x1CB, "00-FF!"⟩,
  ⟨0x1CC, 0x1CC, "D6-EF:61 F0-F9:30 FD-FF!"⟩,
  ⟨0x1CE, 0x1CE, "B4-B9! D1-DF! F1-FF!"⟩,
  ⟨0x1CF, 0x1CF, "2E-2F! 47-4F! C4-FF!"⟩,
  ⟨0x1D0, 0x1D0, "F6-FF!"⟩,
  ⟨0x1D1, 0x1D1, "27-28! 5E=1D157,1D165 5F=1D158,1D165 60=1D158,1D165,1D16E 61=1D158,1D165,1D16F
    62=1D158,1D165,1D170 63=1D158,1D165,1D171 64=1D158,1D165,1D172 73-7A. BB=1D1B9,1D165
    BC=1D1BA,1D165 BD=1D1B9,1D165,1D16E BE=1D1BA,1D165,1D16E BF=1D1B9,1D165,1D16F
    C0=1D1BA,1D165,1D16F EB-FF!"⟩,
  ⟨0x1D2, 0x1D2, "46-BF! D4-DF! F4-FF!"⟩,
  ⟨0x1D3, 0x1D3, "57-5F! 79-FF!"⟩,
  ⟨0x1D4, 0x1D4, "00-19:61 1A-33:61 34-4D:61 4E-66/61 4F-53/62 55! 57-67/6A 68-81:61 82-9B:61
    9C-9E/61 9D! 9F=64 A0-A1! A2=67 A3-A4! A5-A6:6A A7-A8! A9-AC:6E AD! AE-B5:73 B6-B9:61 BA!
    BB-CF/66 BC! BE-C2/69 C4! C6-CE/71 D0-E9:61 EA-FF:61"⟩,
  ⟨0x1D5, 0x1D5, "00-03:77 04-05:61 06! 07-0A:64 0B-0C! 0D-14:6A 15! 16-1C:73 1D! 1E-37:61
    38-39:61 3A! 3B-3E:64 3F! 40-44:69 45! 46=6F 47-49! 4A-50:73 51! 52-6B:61 6C-85:61 86-9F:61
    A0-B9:61 BA-D3:61 D4-ED:61 EE-FF:61"⟩,
  ⟨0x1D6, 0x1D6, "00-07:73 08-21:61 22-3B:61 3C-55:61 56-6F:61 70-89:61 8A-A3:61 A4=131 A5=237
    A6-A7! A8-B8:3B1 B9=3B8 BA-C0:3C3 C1=2207 C2-D2:3B1 D3-D4=3C3 D5-DA:3C4 DB=2202 DC=3B5
    DD=3B8 DE=3BA DF=3C6 E0=3C1 E1=3C0 E2-F2:3B1 F3=3B8 F4-FA:3C3 FB=2207 FC-FF:3B1"⟩,
  ⟨0x1D7, 0x1D7, "00-0C:3B5 0D-0E=3C3 0F-14:3C4 15=2202 16=3B5 17=3B8 18=3BA 19=3C6 1A=3C1
    1B=3C0 1C-2C:3B1 2D=3B8 2E-34:3C3 35=2207 36-46:3B1 47-48=3C3 49-4E:3C4 4F=2202 50=3B5
    51=3B8 52=3BA 53=3C6 54=3C1 55=3C0 56-66:3B1 67=3B8 68-6E:3C3 6F=2207 70-80:3B1 81-82=3C3
    83-88:3C4 89=2202 8A=3B5 8B=3B8 8C=3BA 8D=3C6 8E=3C1 8F=3C0 90-A0:3B1 A1=3B8 A2-A8:3C3
    A9=2207 AA-BA:3B1 BB-BC=3C3 BD-C2:3C4 C3=2202 C4=3B5 C5=3B8 C6=3BA C7=3C6 C8=3C1 C9=3C0
    CA-CB=3DD CC-CD! CE-D7:30 D8-E1:30 E2-EB:30 EC-F5:30 F6-FF:30"⟩,
  ⟨0x1DA, 0x1DA, "8C-9A! A0! B0-FF!"⟩,
  ⟨0x1DB, 0x1DE, "00-FF!"⟩,
  ⟨0x1DF, 0x1DF, "1F-24! 2B-FF!"⟩,
  ⟨0x1E0, 0x1E0, "07! 19-1A! 22! 25! 2B-2F! 30-38:430 39-3B:43A 3C-46:43E 47=44B 48-49:44D
    4A=A689 4B=4D9 4C=456 4D=458 4E=4E9 4F=4AF 50=4CF 51-59:430 5A-5B:43A 5C-5D:43E 5E=441
    5F-64:443 65-66:44A 67=491 68=456 69=455 6A=45F 6B=4AB 6C=A651 6D=4B1 6E-8E! 90-FF!"⟩,
  ⟨0x1E1, 0x1E1, "2D-2F! 3E-3F! 4A-4D! 50-FF!"⟩,
  ⟨0x1E2, 0x1E2, "00-8F! AF-BF! FA-FE!"⟩,
  ⟨0x1E3, 0x1E3, "00-FF!"⟩,
  ⟨0x1E4, 0x1E4, "00-CF! FA-FF!"⟩,
  ⟨0x1E5, 0x1E5, "00-CF! FB-FE!"⟩,
  ⟨0x1E6, 0x1E6, "00-BF! DF! F6-FD!"⟩,
  ⟨0x1E7, 0x1E7, "00-DF! E7! EC! EF! FF!"⟩,
  ⟨0x1E8, 0x1E8, "C5-C6! D7-FF!"⟩,
  ⟨0x1E9, 0x1E9, "00-21:1E922 4C-4F! 5A-5D! 60-FF!"⟩,
  ⟨0x1EA, 0x1EB, "00-FF!"⟩,
  ⟨0x1EC, 0x1EC, "00-70! B5-FF!"⟩,
  ⟨0x1ED, 0x1ED, "00! 3E-FF!"⟩,
  ⟨0x1EE, 0x1EE, "00-01:627 02=62C 03=62F 04! 05=648 06=632 07=62D 08=637 09=64A 0A-0D:643
    0E=633 0F=639 10=641 11=635 12=642 13=631 14=634 15-16:62A 17=62E 18=630 19=636 1A=638
    1B=63A 1C=66E 1D=6BA 1E=6A1 1F=66F 20! 21=628 22=62C 23! 24=647 25-26! 27=62D 28! 29=64A
    2A-2D:643 2E=633 2F=639 30=641 31=635 32=642 33! 34=634 35-36:62A 37=62E 38! 39=636 3A!
    3B=63A 3C-41! 42=62C 43-46! 47=62D 48! 49=64A 4A! 4B-4D/644 4C! 4E=633 4F=639 50! 51=635
    52=642 53! 54=634 55-56! 57=62E 58! 59=636 5A! 5B=63A 5C! 5D=6BA 5E! 5F=66F 60! 61=628
    62=62C 63! 64=647 65-66! 67=62D 68=637 69=64A 6A-6C/643 6B! 6D=646 6E=633 6F=639 70=641
    71=635 72=642 73! 74=634 75-76:62A 77=62E 78! 79=636 7A=638 7B=63A 7C=66E 7D! 7E=6A1 7F!
    80-81:627 82=62C 83=62F 84-85:647 86=632 87=62D 88=637 89=64A 8A! 8B-8D:644 8E=633 8F=639
    90=641 91=635 92=642 93=631 94=634 95-96:62A 97=62E 98=630 99=636 9A=638 9B=63A 9C-A0!
    A1=628 A2=62C A3=62F A4! A5=648 A6=632 A7=62D A8=637 A9=64A AA! AB-AD:644 AE=633 AF=639
    B0=641 B1=635 B2=642 B3=631 B4=634 B5-B6:62A B7=62E B8=630 B9=636 BA=638 BB=63A BC-EF! F2-FF!"⟩,
  ⟨0x1EF, 0x1EF, "00-FF!"⟩,
  ⟨0x1F0, 0x1F0, "2C-2F! 94-9F! AF-B0! C0! D0! F6-FF!"⟩,
  ⟨0x1F1, 0x1F1, "00! 01=30,2C 02=31,2C 03=32,2C 04=33,2C 05=34,2C 06=35,2C 07=36,2C 08=37,2C
    09=38,2C 0A=39,2C 10=28,61,29 11=28,62,29 12=28,63,29 13=28,64,29 14=28,65,29 15=28,66,29
    16=28,67,29 17=28,68,29 18=28,69,29 19=28,6A,29 1A=28,6B,29 1B=28,6C,29 1C=28,6D,29
    1D=28,6E,29 1E=28,6F,29 1F=28,70,29 20=28,71,29 21=28,72,29 22=28,73,29 23=28,74,29
    24=28,75,29 25=28,76,29 26=28,77,29 27=28,78,29 28=28,79,29 29=28,7A,29 2A=3014,73,3015
    2B=63 2C=72 2D=63,64 2E=77,7A 30-49:61 4A=68,76 4B=6D,76 4C=73,64 4D=73,73 4E=70,70,76
    4F=77,63 6A=6D,63 6B=6D,64 6C=6D,72 90=64,6A AE-E5!"⟩,
  ⟨0x1F2, 0x1F2, "00=307B,304B 01=30B3,30B3 02=30B5 03-0F! 10=624B 11=5B57 12=53CC 13=30C7
    14=4E8C 15=591A 16=89E3 17=5929 18=4EA4 19=6620 1A=7121 1B=6599 1C=524D 1D=5F8C 1E=518D
    1F=65B0 20=521D 21=7D42 22=751F 23=8CA9 24=58F0 25=5439 26=6F14 27=6295 28=6355 29=4E00
    2A=4E09 2B=904A 2C=5DE6 2D=4E2D 2E=53F3 2F=6307 30=8D70 31=6253 32=7981 33=7A7A 34=5408
    35=6E80 36=6709 37=6708 38=7533 39=5272 3A=55B6 3B=914D 3C-3F! 40=3014,672C,3015
    41=3014,4E09,3015 42=3014,4E8C,3015 43=3014,5B89,3015 44=3014,70B9,3015 45=3014,6253,3015
    46=3014,76D7,3015 47=3014,52DD,3015 48=3014,6557,3015 49-4F! 50=5F97 51=53EF 52-5F! 66-FF!"⟩,
  ⟨0x1F6, 0x1F6, "D9-DB! ED-EF! FD-FF!"⟩,
  ⟨0x1F7, 0x1F7, "DA-DF! EC-EF! F1-FF!"⟩,
  ⟨0x1F8, 0x1F8, "0C-0F! 48-4F! 5A-5F! 88-8F! AE-AF! BC-BF! C2-CF! D9-FF!"⟩,
  ⟨0x1FA, 0x1FA, "58-5F! 6E-6F! 7D-7F! 8B-8D! C7! C9-CC! DD-DE! EB-EE! F9-FF!"⟩,
  ⟨0x1FB, 0x1FB, "93! F0-F9:30 FB-FF!"⟩,
  ⟨0x1FC, 0x1FF, "00-FF!"⟩,
  ⟨0x2A6, 0x2A6, "E0-FF!"⟩,
  ⟨0x2B8, 0x2B8, "1E-1F!"⟩,
  ⟨0x2CE, 0x2CE, "AE-AF!"⟩,
  ⟨0x2EB, 0x2EB, "E1-EF!"⟩,
  ⟨0x2EE, 0x2EE, "5E-FF!"⟩,
  ⟨0x2EF, 0x2F7, "00-FF!"⟩,
  ⟨0x2F8, 0x2F8, "00=4E3D 01=4E38 02=4E41 03=20122 04=4F60 05=4FAE 06=4FBB 07=5002 08=507A
    09=5099 0A=50E7 0B=50CF 0C=349E 0D=2063A 0E=514D 0F=5154 10=5164 11=5177 12=2051C 13=34B9
    14=5167 15=518D 16=2054B 17=5197 18=51A4 19=4ECC 1A=51AC 1B=51B5 1C=291DF 1D=51F5 1E=5203
    1F=34DF 20=523B 21=5246 22=5272 23=5277 24=3515 25=52C7 26=52C9 27=52E4 28=52FA 29-2A:5305
    2B=5317 2C=5349 2D=5351 2E=535A 2F=5373 30-32/537D 31=537F 33=537F 34=20A2C 35=7070 36=53CA
    37=53DF 38=20B63 39=53EB 3A=53F1 3B=5406 3C=549E 3D=5438 3E=5448 3F=5468 40=54A2 41=54F6
    42=5510 43=5553 44=5563 45-46=5584 47=5599 48=55AB 49=55B3 4A=55C2 4B=5716 4C=5606 4D=5717
    4E=5651 4F=5674 50=5207 51=58EE 52=57CE 53=57F4 54=580D 55=578B 56=5832 57=5831 58=58AC
    59=214E4 5A=58F2 5B=58F7 5C=5906 5D=591A 5E=5922 5F=5962 60=216A8 61=216EA 62=59EC 63=5A1B
    64=5A27 65=59D8 66=5A66 67=36EE 68=36FC 69=5B08 6A-6B=5B3E 6C=219C8 6D=5BC3 6E=5BD8 6F=5BE7
    70=5BF3 71=21B18 72=5BFF 73=5C06 74=5F53 75=5C22 76=3781 77=5C60 78=5C6E 79=5CC0 7A=5C8D
    7B-7D/21DE4 7C=5D43 7E=5D6E 7F=5D6B 80=5D7C 81-82:5DE1 83=382F 84=5DFD 85=5E28 86=5E3D
    87=5E69 88=3862 89=22183 8A=387C 8B=5EB0 8C=5EB3 8D=5EB6 8E=5ECA 8F=2A392 90=5EFE
    91-92=22331 93=8201 94-95=5F22 96=38C7 97=232B8 98=261DA 99=5F62 9A=5F6B 9B=38E3 9C=5F9A
    9D=5FCD 9E=5FD7 9F=5FF9 A0=6081 A1=393A A2=391C A3=6094 A4=226D4 A5=60C7 A6=6148 A7=614C
    A8=614E A9=614C AA=617A AB=618E AC=61B2 AD=61A4 AE=61AF AF=61DE B0=61F2 B1=61F6 B2=6210
    B3=621B B4=625D B5=62B1 B6=62D4 B7=6350 B8=22B0C B9=633D BA=62FC BB=6368 BC=6383 BD=63E4
    BE=22BF1 BF=6422 C0=63C5 C1=63A9 C2=3A2E C3=6469 C4=647E C5=649D C6=6477 C7=3A6C C8=654F
    C9=656C CA=2300A CB=65E3 CC=66F8 CD=6649 CE=3B19 CF=6691 D0=3B08 D1=3AE4 D2=5192 D3=5195
    D4=6700 D5=669C D6=80AD D7=43D9 D8=6717 D9=671B DA=6721 DB=675E DC=6753 DD=233C3 DE=3B49
    DF=67FA E0=6785 E1=6852 E2=6885 E3=2346D E4=688E E5=681F E6=6914 E7=3B9D E8=6942 E9=69A3
    EA=69EA EB=6AA8 EC=236A3 ED=6ADB EE=3C18 EF=6B21 F0=238A7 F1=6B54 F2=3C4E F3=6B72 F4=6B9F
    F5-F6:6BBA F7=23A8D F8=21D0B F9=23AFA FA=6C4E FB=23CBC FC=6CBF FD=6CCD FE=6C67 FF=6D16"⟩,
  ⟨0x2F9, 0x2F9, "00=6D3E 01=6D77 02=6D41 03=6D69 04=6D78 05=6D85 06=23D1E 07=6D34 08=6E2F
    09=6E6E 0A=3D33 0B=6ECB 0C=6EC7 0D=23ED1 0E=6DF9 0F=6F6E 10=23F5E 11=23F8E 12=6FC6 13=7039
    14=701E 15=701B 16=3D96 17=704A 18=707D 19=7077 1A=70AD 1B=20525 1C=7145 1D=24263 1E=719C
    1F=243AB 20=7228 21=7235 22=7250 23=24608 24=7280 25=7295 26=24735 27=24814 28=737A 29=738B
    2A=3EAC 2B=73A5 2C-2D=3EB8 2E=7447 2F=745C 30=7471 31=7485 32=74CA 33=3F1B 34=7524 35=24C36
    36=753E 37=24C92 38=7570 39=2219F 3A=7610 3B=24FA1 3C=24FB8 3D=25044 3E=3FFC 3F=4008 40=76F4
    41=250F3 42=250F2 43=25119 44=25133 45-46:771E 47=771F 48=774A 49=4039 4A=778B 4B=4046
    4C=4096 4D=2541D 4E=784E 4F=788C 50=78CC 51=40E3 52=25626 53=7956 54=2569A 55=256C5 56=798F
    57=79EB 58=412F 59=7A40 5A=7A4A 5B=7A4F 5C=2597C 5D-5E=25AA7 5F=7AEE 60=4202 61=25BAB
    62=7BC6 63=7BC9 64=4227 65=25C80 66=7CD2 67=42A0 68=7CE8 69=7CE3 6A=7D00 6B=25F86 6C=7D63
    6D=4301 6E=7DC7 6F=7E02 70=7E45 71=4334 72=26228 73=26247 74=4359 75=262D9 76=7F7A 77=2633E
    78=7F95 79=7FFA 7A=8005 7B=264DA 7C=26523 7D=8060 7E=265A8 7F=8070 80=2335F 81=43D5 82=80B2
    83=8103 84=440B 85=813E 86=5AB5 87=267A7 88=267B5 89=23393 8A=2339C 8B=8201 8C=8204 8D=8F9E
    8E=446B 8F=8291 90=828B 91=829D 92=52B3 93=82B1 94=82B3 95=82BD 96=82E6 97=26B3C 98=82E5
    99=831D 9A=8363 9B=83AD 9C=8323 9D=83BD 9E=83E7 9F=8457 A0=8353 A1=83CA A2=83CC A3=83DC
    A4=26C36 A5=26D6B A6=26CD5 A7=452B A8=84F1 A9=84F3 AA=8516 AB=273CA AC=8564 AD=26F2C AE=455D
    AF=4561 B0=26FB1 B1=270D2 B2=456B B3=8650 B4=865C B5=8667 B6=8669 B7=86A9 B8=8688 B9=870E
    BA=86E2 BB=8779 BC=8728 BD=876B BE=8786 BF=45D7 C0=87E1 C1=8801 C2=45F9 C3=8860 C4=8863
    C5=27667 C6=88D7 C7=88DE C8=4635 C9=88FA CA=34BB CB=278AE CC=27966 CD=46BE CE=46C7 CF=8AA0
    D0=8AED D1=8B8A D2=8C55 D3=27CA8 D4=8CAB D5=8CC1 D6=8D1B D7=8D77 D8=27F2F D9=20804 DA=8DCB
    DB=8DBC DC=8DF0 DD=208DE DE=8ED4 DF=8F38 E0=285D2 E1=285ED E2=9094 E3=90F1 E4=9111 E5=2872E
    E6=911B E7=9238 E8-E9:92D7 EA=927C EB=93F9 EC=9415 ED=28BFA EE=958B EF=4995 F0=95B7 F1=28D77
    F2=49E6 F3=96C3 F4=5DB2 F5=9723 F6=29145 F7=2921A F8=4A6E F9=4A76 FA=97E0 FB=2940A FC=4AB2
    FD=29496 FE-FF=980B"⟩,
  ⟨0x2FA, 0x2FA, "00=9829 01=295B6 02=98E2 03=4B33 04=9929 05=99A7 06=99C2 07=99FE 08=4BCE
    09=29B30 0A=9B12 0B=9C40 0C=9CFD 0D=4CCE 0E=4CED 0F=9D67 10=2A0CE 11=4CF8 12=2A105 13=2A20E
    14=2A291 15=9EBB 16=4D56 17=9EF9 18=9EFE 19=9F05 1A=9F0F 1B=9F16 1C=9F3B 1D=2A600 1E-FF!"⟩,
  ⟨0x2FB, 0x2FF, "00-FF!"⟩,
  ⟨0x313, 0x313, "4B-4F!"⟩,
  ⟨0x334, 0x334, "7A-FF!"⟩,
  ⟨0x335, 0xE00, "00-FF!"⟩,
  ⟨0xE01, 0xE01, "00-EF. F0-FF!"⟩,
  ⟨0xE02, 0x10FF, "00-FF!"⟩
]

end SenderAudit.Idna
