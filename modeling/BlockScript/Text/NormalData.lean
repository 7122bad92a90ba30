/-!
# Data of the compatibility normal form

Decompositions of the characters that can stand in a name, and combining classes. Hangul syllables
follow a rule and are not listed.
-/

namespace BlockScript.Text.NormalData

/-- Decompositions, one step at a time, with `=` if they compose again. A word `@A.B` opens a block
in which code points count from `A` and their images from `B`; a mark after a colon counts from
U+0300. An entry that names no code point is about the one after the entry before it. After the image
of the first code point of an entry, `+k`, `*k` and `/k` give the number of its code points: the image
moves along with them, stays, or moves along with every second of them. A capital with `&` stands for
the small letter after it, too. A word that starts with `.` or `:` goes on from the first character of
the image before it. Ideographs stand for themselves. -/
def decomposition : String :=
  "@0.0 AA>61 B5>3BC BA>6F C0=41:0 :1 :2 :3 :8 :A C7=43:27 =45:0 :1 :2 :8 =49:0 :1 :2 :8 D1=4E:3
   =4F:0 :1 :2 :3 :8 D9=55:0 :1 :2 :8 =59:1 E0=61:0 :1 :2 :3 :8 :A E7=63:27 =65:0 :1 :2 :8 =69:0 :1
   :2 :8 F1=6E:3 =6F:0 :1 :2 :3 :8 F9=75:0 :1 :2 :8 =79:1 FF=79:8 =41:4& :6& :28& =43:1& :2& :7& :C&
   =44:C& 112=45:4& :6& :7& :28& :C& =47:2& :6& :7& :27& =48:2& 128=49:3& :4& :6& :28& :7 132>49.4A
   69.6A =4A:2& =4B:27& 139=4C:1& :27& :C& 4C.B7& 143=4E:1& :27& :C& 2BC.6E 14C=4F:4& :6& :B&
   154=52:1& :27& :C& =53:1& :2& :27& :C& =54:27& :C& 168=55:3& :4& :6& :A& :B& :28& =57:2& =59:2&
   :8 =5A:1& :7& :C& 73 1A0=4F:1B& 1AF=55:1B& 1C4>44.17D .17E& 4C.4A .6A& 4E.4A .6A& =41:C& =49:C&
   =4F:C& =55:C& =DC:4& :1& :C& :0& 1DE=C4:4& =226:4+2 =C6:4& 1E6=47:C& =4B:C& =4F:28& =1EA:4+2
   =1B7:C =292:C =6A:C 44.5A .7A& =47:1& 1F8=4E:0& =C5:1& =C6:1& =D8:1& =41:F& :11& =45:F& :11&
   =49:F& :11& =4F:F& :11& =52:F& :11& =55:F& :11& =53:26& =54:26& 21E=48:C& 226=41:7& =45:27&
   =D6:4& =D5:4& =4F:7& =22E:4+2 =59:4& 2B0>68 266 6A 72 279 27B 281 77 79 2E0>263 6C 73 78 295
   340>300+2 343>313 308:1 374>2B9 386=391:1 B7 @300.300 =95:1 =97:1 =99:1 8C=9F:1 8E=A5:1 =A9:1
   =CA:1 AA=99:8 =A5:8 =B1:1 =B5:1 =B7:1 =B9:1 =CB:1 CA=B9:8 =C5:8 =BF:1 =C5:1 =C9:1 D0>B2 B8 A5 8E
   AB C6 C0 F0>BA C1+2 F4>98 B5 F9>A3 @400.400 0=15:0 :8 3=13:1 7=6:8 C=1A:1 =18:0 =23:6 19=18:6
   39=38:6 50=35:0 :8 53=33:1 57=56:8 5C=3A:1 =38:0 =43:6 76=74:F+2 C1=16:6& D0=10:6& :8& D6=15:6&
   DA=D8:8+2 =16:8& =17:8& E2=18:4& :8& =1E:8& EA=E8:8+2 =2D:8& =23:4& :8& :B& =27:8& F8=2B:8&
   @500.500 87>65.82 @600.600 22=27.53 .54 =48.54 =27.55 =4A.54 75>27.74 48.74 C7.74 4A.74 C0=D5.54
   C2=C1.54 D3=D2.54 @900.900 29=28.3C 31=30.3C 34=33.3C 58>15.3C+3 1C.3C 21.3C+2 2B.3C 2F.3C
   CB=C7.BE .D7 DC>A1.BC+2 DF>AF.BC @A00.A00 33>32.3C 36>38.3C 59>16.3C+2 1C.3C 5E>2B.3C @B00.B00
   48=47.56 4B=47.3E .57 5C>21.3C+2 94=92.D7 CA=C6.BE+2 .D7 @C00.C00 48=46.56 C0=BF.D5 C7=C6.D5 .D6
   CA=C6.C2 =CA.D5 @D00.D00 4A=46.3E+2 .57 DA=D9.CA DC=D9.CF =DC.CA =D9.DF @E00.E00 33>4D.32
   B3>CD.B2 DC>AB.99 .A1 @F00.F00 43>42.B7 4D>4C.B7 52>51.B7 57>56.B7 5C>5B.B7 69>40.B5 73>71.72
   75>71.74 B2.80 .71.80 B3.80 .71.80 81>71.80 93>92.B7 9D>9C.B7 A2>A1.B7 A7>A6.B7 AC>AB.B7 B9>90.B5
   @1000.1000 26=25.2E FC>DC @1B00.1B00 6=5.35/5 12=11.35 3B=3A.35/2 40=3E.35+2 43=42.35 @1D00.0
   2C>41 C6 42/2 45 18E 47+8 3C>4F 222 50 52 54+2 57 61 250+2 1D02 62 64+2 259 25B+2 67 4F>6B 6D 14B
   6F 254 1D16+2 70 74+2 1D1D 26F 76 1D25 3B2+3 3C6+2 69 72 75+2 3B2+2 3C1 3C6+2 78>43D 9B>252 63
   255 F0 25C 66 25F 261 265 268+3 1D7B 29D 26D 1D85 29F 271 270 272+4 278 282+2 1AB 289+2 1D1C
   28B+2 7A 290+3 3B8 @1E00.0 0=41:25& =42:7& :23& :31& =C7:1& =44:7& :23& :31& :27& :2D& =112:0+2
   :1+2 =45:2D& :30& =228:6+2 =46:7& =47:4& =48:7& :23& :8& :27& :2E& =49:30& =CF:1& =4B:1& :23&
   :31& =4C:23& =1E36:4+2 =4C:31& :2D& =4D:1& :7& :23& =4E:7& :23& :31& :2D& =D5:1& :8& =14C:0+2
   :1+2 =50:1& :7& =52:7& :23& =1E5A:4+2 =52:31& =53:7& :23& =15A:7+2 =160:7+2 =1E62:7+2 =54:7& :23&
   :31& :2D& =55:24& :30& :2D& =168:1+2 =16A:8+2 =56:3& :23& =57:0& :1& :8& :7& :23& =58:7& :8&
   =59:7& =5A:2& :23& :31& =68:31 =74:8 =77:A =79:A 61.2BE 1E61 A0=41:23& :9& =C2:1& :0& :9& :3&
   =1EA0:2+2 =102:1+2 :0+2 :9+2 :3+2 =1EA0:6+2 =45:23& :9& :3& =CA:1& :0& :9& :3& =1EB8:2+2 =49:9&
   :23& =4F:23& :9& =D4:1& :0& :9& :3& =1ECC:2+2 =1A0:1+2 :0+2 :9+2 :3+2 :23+2 =55:23& :9& =1AF:1+2
   :0+2 :9+2 :3+2 :23+2 =59:0& :23& :9& :3& @1F00.0 0=3B1:13 :14 =1F00:0+2 :1+2 :42+2 =391:13 :14
   =1F08:0+2 :1+2 :42+2 =3B5:13 :14 =1F10:0+2 :1+2 18=395:13 :14 =1F18:0+2 :1+2 20=3B7:13 :14
   =1F20:0+2 :1+2 :42+2 =397:13 :14 =1F28:0+2 :1+2 :42+2 =3B9:13 :14 =1F30:0+2 :1+2 :42+2 =399:13
   :14 =1F38:0+2 :1+2 :42+2 =3BF:13 :14 =1F40:0+2 :1+2 48=39F:13 :14 =1F48:0+2 :1+2 50=3C5:13 :14
   =1F50:0+2 :1+2 :42+2 59=3A5:14 5B=1F59:0 5D=1F59:1 5F=1F59:42 =3C9:13 :14 =1F60:0+2 :1+2 :42+2
   =3A9:13 :14 =1F68:0+2 :1+2 :42+2 =3B1:0 3AC =3B5:0 3AD =3B7:0 3AE =3B9:0 3AF =3BF:0 3CC =3C5:0
   3CD =3C9:0 3CE 80=1F00:45+10 =1F20:45+10 =1F60:45+10 =3B1:6 :4 =1F70:45 =3B1:45 =3AC:45 B6=3B1:42
   =1FB6:45 =391:6 :4 :0 386 =391:45 BE>3B9 C2=1F74:45 =3B7:45 =3AE:45 C6=3B7:42 =1FC6:45 =395:0 388
   =397:0 389 =397:45 D0=3B9:6 :4 =3CA:0 390 D6=3B9:42 =3CA:42 =399:6 :4 :0 38A E0=3C5:6 :4 =3CB:0
   3B0 =3C1:13 :14 =3C5:42 =3CB:42 =3A5:6 :4 :0 38E =3A1:14 F2=1F7C:45 =3C9:45 =3CE:45 F6=3C9:42
   =1FF6:45 =39F:0 38C =3A9:0 38F =3A9:45 @2000.0 71>69 7F>6E 90>61 65 6F 78 259 68 6B+4 70 73+2
   102>43 107>190 10A>67 48*3 68 127 49*2 4C& 115>4E 119>50+3 52*2 124>5A 126>3A9 128>5A 12A>4B C5
   42+2 12F>65 45+2 133>4D 6F 5D0+4 69 13C>3C0 3B3 393 3A0 145>44& 65 69+2 160>49 .49 .49.49 .56 56
   .49 .49.49 .49.49.49 49.58 58 .49 .49.49 4C 43+2 4D 69 .69 .69.69 .76 76 .69 .69.69 .69.69.69
   69.78 78 .69 .69.69 6C 63+2 6D C7C>6A 56 D6F>2D61 1038>十卄卅 @3000.3000 4C=4B.99/C 65=64.99/3
   70=6F.99 .9A 73=72.99 .9A 76=75.99 .9A 79=78.99 .9A 7C=7B.99 .9A 94=46.99 9E=9D.99 88.8A
   AC=AB.99/C C5=C4.99/3 D0=CF.99 .9A D3=D2.99 .9A D6=D5.99 .9A D9=D8.99 .9A DC=DB.99 .9A F4=A6.99
   F7=EF.99+4 FE=FD.99 B3.C8 @3100.1100 31>0+2 AA 2 AC+2 3+3 B0+6 1A 6+3 21 9+A 61+15 60 14+2 C7+2
   CC CE D3 D7 D9 1C DD DF 1D+2 20 22+2 27 29 2B+5 32 36 40 47 4C F1+2 57+3 84+2 88 91+2 94 9E A1
   @0.0 A69C>44A 44C A770>A76F A7F2>43 46 51 A7F8>126 153 AB5C>A727 AB37 26B AB52 AB69>28D
   F900>豈更車賈滑串句龜龜契金喇奈懶癩羅蘿螺裸邏樂洛烙珞落酪駱
   亂卵欄爛蘭鸞嵐濫藍襤拉臘蠟廊朗浪狼郎來冷勞擄櫓爐盧老蘆虜路露魯鷺碌祿綠菉錄鹿論壟弄籠聾牢磊賂雷壘
   屢樓淚漏累縷陋勒肋凜凌稜綾菱陵讀拏樂諾丹寧怒率異北磻便復不泌數索參塞省葉說殺辰沈拾若掠略亮兩凉梁
   糧良諒量勵呂女廬旅濾礪閭驪麗黎力曆歷轢年憐戀撚漣煉璉秊練聯輦蓮連鍊列劣咽烈裂說廉念捻殮簾獵令囹寧
   嶺怜玲瑩羚聆鈴零靈領例禮醴隸惡了僚寮尿料樂燎療蓼遼龍暈阮劉杻柳流溜琉留硫紐類六戮陸倫崙淪輪律慄栗
   率隆利吏履易李梨泥理痢罹裏裡里離匿溺吝燐璘藺隣鱗麟林淋臨立笠粒狀炙識什茶刺切度拓糖宅洞暴輻行降見
   廓兀嗀 FA10>塚 FA12>晴 FA15>凞猪益礼神祥福靖精羽 FA20>蘒 FA22>諸 FA25>逸都 FA2A>飯飼館鶴郞隷侮僧
   免勉勤卑喝嘆器塀墨層屮悔慨憎懲敏既暑梅海渚漢煮爫琢碑社祉祈祐祖祝禍禎穀突節練縉繁署者臭艹艹著褐視
   謁謹賓贈辶逸難響頻恵𤋮舘 FA70>並况全侀充冀勇勺喝啕喙嗢塚墳奄奔婢嬨廒廙彩徭惘慎愈憎慠懲戴揄搜摒敖
   晴朗望杖歹殺流滛滋漢瀞煮瞧爵犯猪瑱甆画瘝瘟益盛直睊着磌窱節类絛練缾者荒華蝹襁覆視調諸請謁諾諭謹變
   贈輸遲醙鉶陼難靖韛響頋頻鬒龜𢡊𢡄𣏕㮝䀘䀹𥉉𥳐𧻓齃龎 @FB00.0 0>66.66 .69 .6C .66.69 .66.6C 73.74*2
   @FB00.500 13>74.76 .65 .6B 7E.76 74.6D 1D>D9.B4 1F>F2.B7 E2 D0 D3+2 DB+3 E8 EA 2A>E9.C1 .C2
   .BC.C1 .BC.C2 D0.B7 .B8 .BC+7 38>D8.BC+5 3E>DE.BC/2 E1.BC/2 E4.BC/2 E7.BC+4 D5.B9 D1.BF DB.BF
   E4.BF D0.DC @FB00.600 71*2 7B*4 7E*4 80*4 7A*4 7F*4 79*4 A4*4 A6*4 84*4 83*4 86*4 87*4 8D*2 8C*2
   8E*2 88*2 98*2 91*2 A9*4 AF*4 B3*4 B1*4 BA*2 BB*4 C0*2 C1*4 BE*4 D2*2 D3*2 D3>AD*4 C7*2 C6*2 C8*2
   C7.74 CB*2 C5*2 C9*2 D0*4 49*2 26.27*2 .D5*2 .48*2 .C7*2 .C6*2 .C8*2 .D0*3 .49*3 CC*4 26.2C .2D
   .45 .49 .4A 28.2C .2D .2E .45 .49 .4A 2A.2C .2D .2E .45 .49 .4A 2B.2C .45 .49 .4A 2C.2D .45 2D.2C
   .45 2E.2C .2D .45 33.2C .2D .2E .45 35.2D .45 36.2C .2D .2E .45 37.2D .45+2 39.2C .45 3A.2C .45
   41.2C .2D .2E .45 .49 .4A 42.2D .45 .49 .4A 43.27 .2C .2D .2E .44 .45 .49 .4A 44.2C .2D .2E .45
   .49 .4A 45.2C .2D .2E .45 .49 .4A 46.2C .2D .2E .45 .49 .4A 47.2C .45 .49 .4A 4A.2C .2D .2E .45
   .49 .4A 30.70+2 49.70 164>26.31 .32 .45 .46 .49 .4A 28.31 .32 .45 .46 .49 .4A 2A.31 .32 .45 .46
   .49 .4A 2B.31 .32 .45 .46 .49 .4A 41.49 .4A 42.49 .4A 43.27 .44 .45 .49 .4A 44.45 .49 .4A 45.27
   .45 46.31 .32 .45 .46 .49 .4A 49.70 4A.31 .32 .45 .46 .49 .4A 26.2C .2D .2E .45 .47 28.2C .2D .2E
   .45 .47 2A.2C .2D .2E .45 .47 2B.45 2C.2D .45 2D.2C .45 2E.2C .45 33.2C .2D .2E .45 35.2D .2E .45
   36.2C .2D .2E .45 37.2D 38.45 39.2C .45 3A.2C .45 41.2C .2D .2E .45 42.2D .45 43.2C .2D .2E .44
   .45 44.2C .2D .2E .45 .47 45.2C .2D .2E .45 46.2C .2D .2E .45 .47 47.2C .45 .70 4A.2C .2D .2E .45
   .47 26.45 .47 28.45 .47 2A.45 .47 2B.45 .47 33.45 .47 34.45 .47 43.44 .45+2 46.45 .47 4A.45 .47
   40.4E.51 .4F.51 .50.51 37.49 .4A 39.49 .4A 3A.49 .4A 33.49 .4A 34.49 .4A 2D.49 .4A 2C.49 .4A
   2E.49 .4A 35.49 .4A 36.49 .4A 34.2C .2D .2E .45 .31 33.31 35.31+2 37.49 .4A 39.49 .4A 3A.49 .4A
   33.49 .4A 34.49 .4A 2D.49 .4A 2C.49 .4A 2E.49 .4A 35.49 .4A 36.49 .4A 34.2C .2D .2E .45 .31 33.31
   35.31+2 34.2C .2D .2E .45 33.47+2 37.45 33.2C .2D .2E 34.2C .2D .2E 37.45+2 27.4B*2 250>2A.2C.45
   .2D.2C*2 .2D.45 .2E.45 .45.2C .45.2D .45.2E 2C.45.2D*2 2D.45.4A .45.49 33.2D.2C .2C.2D .2C.49
   .45.2D*2 .45.2C .45.45*2 35.2D.2D*2 .45.45 34.2D.45*2 .2C.4A .45.2E*2 .45.45*2 36.2D.49 .2E.45*2
   37.45.2D*2 .45.45 .45.4A 39.2C.45 .45.45*2 .45.49 3A.45.45 .45.4A .45.49 41.2E.45*2 42.45.2D
   .45.45 44.2D.45 .2D.4A .2D.49 .2C.2C*2 .2E.45*2 .45.2D*2 45.2D.2C .2D.45 .2D.4A .2C.2D .2C.45
   .2E.2C .2E.45 292>45.2C.2E 47.45.2C .45.45 46.2D.45 .2D.49 .2C.45*2 .2C.49 .45.4A .45.49
   4A.45.45*2 28.2E.4A 2A.2C.4A .2C.49 .2E.4A .2E.49 .45.4A .45.49 2C.45.4A .2D.49 .45.49 33.2E.49
   35.2D.4A 34.2D.4A 36.2D.4A 44.2C.4A .45.4A 4A.2D.4A .2C.4A .45.4A 45.45.4A 42.45.4A 46.2D.4A
   42.45.2D 44.2D.45 39.45.4A 43.45.4A 46.2C.2D 45.2E.4A 44.2C.45 43.45.45 44.2C.45 46.2C.2D
   2C.2D.4A 2D.2C.4A 45.2C.4A 41.45.4A 28.2D.4A 43.45.45 39.2C.45 35.45.45 33.2E.4A 46.2C.4A
   2F0>35.44.D2 42.44.D2 27.44.44.47 .43.28.31 45.2D.45.2F 35.44.39.45 31.33.48.44 39.44.4A.47
   48.33.44.45 35.44.49 @FE00.0 33>5F*2 4D>5F*3 @FE00.600 71>40.4B 77>40.4E 79>40.4F 7B>40.50
   7D>40.51 7F>40.52 21+2 22+2 23+2 24+2 25+2 26*3 27*2 28*4 29*2 2A*4 2B*4 2C*4 2D*4 2E*4 2F*2 30*2
   31*2 32*2 33*4 34*4 35*4 36*4 37*4 38*4 39*4 3A*4 41*4 42*4 43*4 44*4 45*4 46*4 47*4 48*2 49*2
   4A*4 44.22*2 .23*2 .25*2 .27*2 @FF00.0 10>30+A 21>41+1A 3F>5F/2 62+19 @FF00.3000 66>F2 A1 A3 A5
   A7 A9 E3 E5 E7 C3 FC A2 A4 A6 A8 AA+2 AD AF B1 B3 B5 B7 B9 BB BD BF C1 C4 C6 C8 CA+6 D2 D5 D8 DB
   DE+5 E4 E6 E8+6 EF F3 99+2 @FF00.1100 60 0+2 AA 2 AC+2 3+3 B0+6 1A 6+3 21 9+A C2>61+6 CA>67+6
   D2>6D+6 DA>73+3 @10700.0 81>2D0+2 E6 299 253 87>2A3 AB66 2A5 2A4 256+2 1D91 258 25E 2A9 264 262
   260 29B 127 29C 267 284 2AA+2 26C 1DF04 A78E 26E 1DF05 28E 1DF06 F8 276+2 71 27A 1DF08 27D+2 280
   2A8 2A6 AB67 2A7 288 2C71 B2>28F 2A1+2 298 1C0+3 1DF0A 1DF1E @11000.11000 9A=99.BA/2 AB=A5.BA
   12E=131.127+2 34B=347.33E .357 4BB=4B9.4BA .4B0 4BE=4B9.4BD 5BA=5B8.5AF+2 938=935.930 @1D000.0
   400>41+1A 61+1A 41+1A 61+7 456>69+12 41+1A 61+1A 41/2 44 4A2>47 4A5>4A+2 4A9>4E+4 4AE>53+8 61+4
   4BB>66/2 69+6 4C5>70+B 41+1A 61+1A 41+2 507>44+4 50D>4A+8 516>53+7 51E>61+1A 41+2 53B>44+4
   540>49+5 546>4F 54A>53+7 552>61+1A 41+1A 61+1A 41+1A 61+1A 41+1A 61+1A 41+1A 61+1A 41+1A 61+1A
   41+1A 61+1A 131 237 6A8>391+11 398 3A3+7 6C2>3B1+19 6DC>3B5 3B8 3BA 3C6 3C1 3C0 391+11 398 3A3+7
   6FC>3B1+19 716>3B5 3B8 3BA 3C6 3C1 3C0 391+11 398 3A3+7 736>3B1+19 750>3B5 3B8 3BA 3C6 3C1 3C0
   391+11 398 3A3+7 770>3B1+19 78A>3B5 3B8 3BA 3C6 3C1 3C0 391+11 398 3A3+7 7AA>3B1+19 7C4>3B5 3B8
   3BA 3C6 3C1 3C0 3DC+2 7CE>30+A 30+A 30+A 30+A 30+A @1EE00.600 0>27+2 2C 2F 5>48 32 2D 37 4A 43+4
   33 39 41 35 42 31 34 2A+2 2E 30 36 38 3A 6E BA A1 6F 21>28 2C 24>47 27>2D 29>4A 43+4 33 39 41 35
   42 34>34 2A+2 2E 39>36 3B>3A 42>2C 47>2D 49>4A 4B>44/2 33 39 51>35 42 54>34 57>2E 59>36 5B>3A
   5D>BA 5F>6F 61>28 2C 64>47 67>2D 37 4A 43/2 46 33 39 41 35 42 74>34 2A+2 2E 79>36 38 3A 6E 7E>A1
   80>27+2 2C 2F 47+2 32 2D 37 4A 8B>44+3 33 39 41 35 42 31 34 2A+2 2E 30 36 38 3A A1>28 2C 2F A5>48
   32 2D 37 4A AB>44+3 33 39 41 35 42 31 34 2A+2 2E 30 36 38 3A @0.0 1FBF0>30+A
   2F800>丽丸乁𠄢你侮侻倂偺備僧像㒞𠘺免兔兤具𠔜㒹內再𠕋冗冤仌冬况𩇟凵刃㓟刻剆割剷㔕勇勉勤
   勺包匆北卉卑博即卽卿卿卿𠨬灰及叟𠭣叫叱吆咞吸呈周咢哶唐啓啣善善喙喫喳嗂圖嘆圗噑噴切壮城埴堍型堲報
   墬𡓤売壷夆多夢奢𡚨𡛪姬娛娧姘婦㛮㛼嬈嬾嬾𡧈寃寘寧寳𡬘寿将当尢㞁屠屮峀岍𡷤嵃𡷦嵮嵫嵼巡巢㠯巽帨帽幩
   㡢𢆃㡼庰庳庶廊𪎒廾𢌱𢌱舁弢弢㣇𣊸𦇚形彫㣣徚忍志忹悁㤺㤜悔𢛔惇慈慌慎慌慺憎憲憤憯懞懲懶成戛扝抱拔捐
   𢬌挽拼捨掃揤𢯱搢揅掩㨮摩摾撝摷㩬敏敬𣀊旣書晉㬙暑㬈㫤冒冕最暜肭䏙朗望朡杞杓𣏃㭉柺枅桒梅𣑭梎栟椔㮝
   楂榣槪檨𣚣櫛㰘次𣢧歔㱎歲殟殺殻𣪍𡴋𣫺汎𣲼沿泍汧洖派海流浩浸涅𣴞洴港湮㴳滋滇𣻑淹潮𣽞𣾎濆瀹瀞瀛㶖灊
   災灷炭𠔥煅𤉣熜𤎫爨爵牐𤘈犀犕𤜵𤠔獺王㺬玥㺸㺸瑇瑜瑱璅瓊㼛甤𤰶甾𤲒異𢆟瘐𤾡𤾸𥁄㿼䀈直𥃳𥃲𥄙𥄳眞真真
   睊䀹瞋䁆䂖𥐝硎碌磌䃣𥘦祖𥚚𥛅福秫䄯穀穊穏𥥼𥪧𥪧竮䈂𥮫篆築䈧𥲀糒䊠糨糣紀𥾆絣䌁緇縂繅䌴𦈨𦉇䍙𦋙罺𦌾
   羕翺者𦓚𦔣聠𦖨聰𣍟䏕育脃䐋脾媵𦞧𦞵𣎓𣎜舁舄辞䑫芑芋芝劳花芳芽苦𦬼若茝荣莭茣莽菧著荓菊菌菜𦰶𦵫𦳕䔫
   蓱蓳蔖𧏊蕤𦼬䕝䕡𦾱𧃒䕫虐虜虧虩蚩蚈蜎蛢蝹蜨蝫螆䗗蟡蠁䗹衠衣𧙧裗裞䘵裺㒻𧢮𧥦䚾䛇誠諭變豕𧲨貫賁贛起
   𧼯𠠄跋趼跰𠣞軔輸𨗒𨗭邔郱鄑𨜮鄛鈸鋗鋘鉼鏹鐕𨯺開䦕閷𨵷䧦雃嶲霣𩅅𩈚䩮䩶韠𩐊䪲𩒖頋頋頩𩖶飢䬳餩馧駂駾
   䯎𩬰鬒鱀鳽䳎䳭鵧𪃎䳸𪄅𪈎𪊑麻䵖黹黾鼅鼏鼖鼻𪘀"

/-- Combining classes, each before its code points; see `Text.readRuns`. -/
def combining : String :=
  "=1 334-4 199C E-6 3EA-1 5-2 B-1 4-1 E94E 60B7-4 51AA 14C9-2 =6 16FF0-1 =7 93C 80 80 80 80 100 80
   37B AFD B2 51 8D7C 6707 B9 57 6C B3 52-1 10A 7D FD F7 183 109 3FF CC08 =8 3099-1 =9 94D 80 80 80
   80 80 80 80 6E-1 11 7D 70 80 CA B5-1 6DA-1 1F 9E 28E E4 66-1 47-1 118C 7A87 26 98 8F 6D 136 F7
   5E52 607 2A F 3A 7A-1 8C 75 B5 63 F5 80 FD 80 77 75 10E 104-1 A2 54 13 52 1A6 105-1 52 =10 5B0
   =11 5B1 =12 5B2 =13 5B3 =14 5B4 =15 5B5 =16 5B6 =17 5B7 =18 5B8 F =19 5B9-1 =20 5BB =21 5BC =22
   5BD =23 5BF =24 5C1 =25 5C2 =26 FB1E =27 64B 2A5 =28 64C 2A5 =29 64D 2A5 =30 618 36 =31 619 36
   =32 61A 36 =33 651 =34 652 =35 670 =36 711 =84 C55 =91 C56 =103 E38-1 =107 E48-3 =118 EB8-1 =122
   EC8-3 =129 F71 =130 F72 8-3 3 =132 F74 =202 321-1 5-1 1AA8 =214 1DCE =216 31B C1E 1C22C-1 8-4
   =218 1DFA 1230 =220 316-3 3-4 3-3 3-A 6-3 B-2 4-1 5-3 3-1 237 5 5 7-5 3 1B 90-1 6 3 84 7 3 44 3
   3-2 2-1 2 4 2 2 2 AA B 5C-2 3E-2 34-4 10 3 3 4-2 7 3-1 58 5C6-1 1C 2 8F C7 8AE DD 67 36-5 3 2-1
   3-1 6 A2 169-4 3-3 E D5 8 5 2A 4 2 2E9 4-3 883C-2 187 5373-6 3D0 E3 72D 2D AC 460-1 4 2-3 33 2
   C1F6-7 8-1 1745-6 =222 59A 13 138C 16F4 =224 302E-1 =226 1D16D =228 5AE 12FB 54E-1 1233 =230
   300-14 29-7 2 4-2 4-2 5 4 8-C 114-4 10B-3 2-2 3-5 7-1 2-1 3 15 4C-7 3C-1 3-4 2-1 78-6 3-3 2 3-1
   3-1 44 2-1 2-1 4 3 2-2 2 2 2 2-1 A1-6 2 23-3 2-8 2-2 2-4 6B 4-3 2B-4 6-D 3-1 2-1 2-2 7-2 2-1 3-4
   52 2-1 AA 584-1 3-1 3D6-2 47E 15D DD 5E-7 34-4 7-1 5-1 3-4 2-3 9D 2-6 15D-2 8-1 5 14 4-1 C7-1 2-6
   2-1 5-24 6 3 2D2-1 3-3 4-1 5 6 2 7 BFF-2 EF-1F 7870 5-9 21-1 51-1 1EF-11 1BF 2-1 4-1 6-1 2 535F-6
   8-1 547-4 695 29 AD 23F-3 184-1 9C-2 2 36 2 17C-2 264-6 4-4 EA 56D2-6 664F-4 21-3 95-2 DBC-6 2-10
   3-6 2-1 2-4 106-6 178 3E-3 655-5 =232 315 5 3E 1A9E 1236 =233 35C 3 3 1A9A =234 35D-1 2-1 1A6C
   =240 345"

end BlockScript.Text.NormalData
