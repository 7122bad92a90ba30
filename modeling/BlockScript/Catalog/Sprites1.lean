import BlockScript.Catalog.Sounds

/-!
# Published sprites: Abby to Outfielder
-/

namespace BlockScript

namespace Catalog

def sprites1 : List SpriteRecord := List.map .of [
 "Abby=R,person,drawing
  FJcWeuwBB_Kpjwi<HSUL 31 100/KQtbOsHSu8-)>34ySPV]/0>&1GP!ub4<5-Y^Y%(Hh 32 100
  5@.P2-w9uN:&:PH6M*(a 32 101",
 "Amon=R,dance
  ~ z7Q+)P0v1)sru>J1Gm:.# 174 162",
 "Andie=V,basketball,R,wheelchair,handicap,handicapable,A=Basketball Bounce
  U:v!|85xiaI9TK_P:*Q& 80 65/UHUh<@F:leOnZ1a-OeHb 40 91/arFQ*Go`+:!PGq)0*;p7 46 49
  `:jPD1G47N)f.eByXiYt 71 57",
 "Anina Dance=R,dance=dance celebrate,dance magic
  anina stance G|d@rmSTt62g7?hpv_!n# 76 252/anina top stand `r`0X+8rz_FacYCGkD'Q# 74 280
  anina top R step ..xpy<:M[Ly!ZYH63468# 248 272/anina top L step f6;E+A.P*?p]3a;IJH6M# 228 274
  anina top freeze VHIqzNTU`)E<-2`7sv78# 110 268/anina R cross 1|?0X.f2'Q^n!(MonNi:# 126 268
  anina pop front 6zQ4K3-YEp8+JDVGD|d]# 68 270/anina pop down c9^W6XGs&_3j&zOE;tT:# 74 156
  anina pop left `(A;P|$Uv|f+b]KB4ZRD# 238 266/anina pop right E&Uqq@3(TI&Y8_LJs]]s# 66 268
  anina pop L arm zd8;pW`+DHN>FP2!_Uip# 68 274/anina pop stand %bYT[Uzp3cD)`Ui)u?VW# 76 276
  anina pop R arm [opwGCv[>4Gkp)T+@iV<# 88 272",
 "Apple=food,red,crunchy,fruit=Chomp
  ~ 1@9.;6R&w5_SWK6I$+EC 31 31",
 "Arrow1=icons,symbols,game,right
  XOXlp4JP'192>w(Kp(GS 28 23/>XE`P;2QeAdEzpGzCO|u/`gtjA&+T&c:(9'So*dD+ 23 28/ApgP5S)JlQX>oU^WQzl`",
 "Avery=R
  hH`o*UxY-m@RgcriR^C- 39 94/L3UD0:.Gmk2pyR-PDKar",
 "Avery Walking=R,walking
  a6?PfCaRo0y.z]TI'q2M 50 95/4tX>6uc4)Y$ByjJZ6b5V 50 102/2'?lZC:r.7(UEZ+A(*gB 48 95
  Ja_CtY%6LlDC5[m]7vpq 50 101",
 "Ball=round,game,bounce,circle,yellow,blue,pink,green,purple,W=Boing,Pop
  2T.t|y>s-KkLsK]wrhxE 22 22/SQ[r4]TItpclV|4kYw(B/gREH>xi_%2p9j_RX?8C*/`j6N.5kfB*T'5$l(Rl$p
  )5Dqpt&g)[OqCunDLWFm",
 "Ballerina=R,dance
  8cZZ1NSA|GIU%URBMYt^ 31.00008984350052 49
  7A`r?7u(c@y[jhINdB-a 29.496239121982484 23.769351839794098
  jH38kP0RpR!mD&U.wbi3 59.502591601941845 59.184989331170854
  ;Ehw(Bx>3-wG|@@w_&Q! 36.40099014292747 77.95160112758442",
 "Balloon1=party,pop,flying,helium,blue,yellow,purple,W=Pop
  _hgw4kLwwx>h*0xWvde2 32 94/P;iwj&FKo).DW5Rax)8K 31 94/>+2kl$Or%U+He1YPN1Ae",
 "Bananas=food,yellow,mushy,potassium,fruit=Chomp,Bite
  ~ cuQ2cHaW6$^v1`gfi6_D 39 38",
 "Baseball=baseball,V,ball,A
  ~ C&p>mmAL.^p8jD&KL2-0 28 28",
 "Basketball=V,basketball,A=pop,basketball bounce
  ~ @28o9$J;bR797rj.zM>S 23 23",
 "Bat=J,spooky,halloween,bat,D,A=owl
  7g)2a3)l(e8jopTYXb!R 80 60/Wof+B'RdygBdp?4pa;9' 39 61/z7EcGUIlK.3O!5ZjZ'71 68 66
  ?b2uP1.n'g;os[icw^sm 29 62",
 "Batter=baseball,V,R,A
  NdM>gmr9U8u:tDVZKsL_ 46 80/k$:NNY;yN+PyQ;j0nc8i 16 67/X0ZidI$de7xYE0L'F;U7 94 66
  :u`;Al[!E([l^^V[hifd 70 102",
 "Beachball=round,V,bounce,inflatable=Basketball Bounce,pop
  ~ 8capsFM[)9wo0OQ<&6U' 34 33",
 "Bear=D,ipzy,walking
  atb'inXu|%`0Qh_U)Qr8 100 90/ACtz>u:YA9ri&TY>C&A* 94 190.66666666666666",
 "Bear-walking=D,ipzy,walking
  bear-walk-a @j2pTnIIA1T?>t?dUypL 130 94/Bn8?wZuj<&Pd&>M23DKI/@jQaK')USH6tc[dFo;ZU
  cekB*nsZ*n:?N!XbU_]&/wt7%uC_Bn0!x:Bi|MSH-/grGIhQ?$]J'9uIDuoRH</^C>oQbCAFj[+ZHnV(OKD
  0t.|Yhg<a*PwtPGnNcUE",
 "Beetle=D,insect,bug,antennae
  ~ 5WWsS%qm(;|C>J)8nbGT 43 38",
 "Bell=Q,holiday,ring,W=xylo1,bell toll
  ~1 If';G<SljrVJB3(Z;]>Q 59 69",
 "Ben=V,soccer,football,R,A=Goal Cheer,Referee Whistle
  .'&m!qg6])@O*$?uQ::p 54 69/'My).LAD%;R10WjvOw>]/ON'Dytd2+<tf`8?@8n4l 73 71
  S?MIw:f6Xt@@NUZ7g0OT 44 71",
 "Bowl=thing,food
  ^!IL2yfG@cbNv7?)QbcZ 30 15",
 "Bowtie=fashion,clothing,bowtie
  ~ 6jVx'vCmB>1c:Y|qIBF? 15 8",
 "Bread=food,ipzy
  ~ :aLU3!A+8[_Av+miRw8P 37 12",
 "Broom=J,ipzy,flying,W
  ~ 9lVUC?%lM_$1wkGWXvEs 135 25",
 "Buildings=W,city,flying,architecture
  building-a dikut_^P-h)Z@wMo5<6X 40 30/R2x5WCanr1EiCJjS)0Cy 46 -11/cS_ZzymCIUnAR9hzZxKU 25 17
  ^2tFhcO(1pJkwvm(r&Wo 59 -10/WSzqN`h@EZ2DDfJL_V]c 36 55/FLZ5do@td|?yoO)4[0w2 41 27
  47.J+CvilwdJC!H!sqII 64 -65/Jdorjq`;eP'jvjql+Vzp 33 136/j^rz.dzu|PWUBdm3rt8h 31 -12
  &srUY'bB$fQSamzsI_t| 29 33",
 "Butterfly 1=D,insect,bug,wetland,owen davey
  butterfly1-a k3:NlpY@'1B`8HaXOWy_ 65 49/6L;J-t)y^%O;pSiH5HvT/0@0lHy@YhcKlCA]+4Zae",
 "Butterfly 2=D,drawing,happy,bug,insect,antennae,flappers
  butterfly2-a 1'no*B?%RND<*09c)Vjf 75 75/e$qNZ$f.Md$F%2l&PpC+",
 "Button1=icons,round,green,K
  ~ *n!.^JZ(!;aqCLhX>zUt 72 72",
 "Button2=icons,blue,K
  T)LO8fs![R*!qW|TEH.Z 72 72/y`s]2tU]HDGHDq-NPST8",
 "Button3=icons,gray,blue,K
  8?JpB|pFmMXnzed|?O9` 72 72/P^)a[RoCADIaNK(&zUm.",
 "Button4=icons,checkmark
  Byl:@tMvoJa!$&H1$:pH 35 34/EK:*<REGVVc%A74pt4hE",
 "Button5=icons,symbols,x,red,black
  L;OeJlRroRnR5K_Xj`pI 72 72/QvZf1B[0IFQXeuSD%1u]",
 "Cake=food,bakery,baking,frosting,sprinkles,sprankles,dragable,lie=Birthday
  H)_.--gYqbt0hF_&q)`> 64 50/b8w0_v$[ybzcehB`9>*y 64 42",
 "Calvrett=R=dance chill out
  ~ jumping 5.A>4i?__Uv+Rfs`'T!%# 168 216/~ thinking BBHy3e2Dh.Sw[]YDl*:5# 106 170",
 "Casey=V,basketball,R,A=basketball bounce
  cptFYmd&YW8M[<u)HR$I 75 62/bIKrv+eOA%0H2aD0;L>5 60 74/8NNvii9g5`!X(EnF-rDj 57 72
  e^[IKrBXne?9jSRinNn0 71 74",
 "Cassy Dance=R,dance=dance around
  cassy-a @[>+N^.JB*)XLw88uCiR# 104 192/i:vyd@w&Wi6t<l0LRO3g# 140 192/zpsP[5Y5MV7vZy1H`&yA# 74 188
  S<R*4I`*`ae1EDT&hB1n# 94 180",
 "Cat=D,cat,kitten,kitty,mammal,orange,scratch cat=Meow
  X'ga9c)]czMNpN%lV|L_ 48 50/%RWKpOM>dQlI1<&lvDY* 46 53",
 "Cat 2=cat,kitty,kitten,D,mammal=meow2
  ~ Bu(98t'pkZf1Uc`-dD(8 87 39",
 "Cat Flying=D,cat,kitty,kitten=Pop
  P+d]YeJd@HgU|km$`g)] 55 37/>iz|'>Pgd'*U|q0A-YRT 44 46",
 "Catcher=baseball,V,R,A
  I$Lk13%BB$.7KU4@hL4; 41 51/POYZ|LhBDa'ubcRXl9Z$ 41 47/Mdn]dva1C0Y]KfBbjgRO 60 87
  IDTkj5ino8TgpfuRPI?Y 86 46",
 "Centaur=J,R,ipzy,emotions=pop,snort
  _]JO06p5DJvx%s|*@b$) 110 140/+zAxx'()JOxVYKm:e(kH/_j[|4_Oq2fNKYeSZYP:`/XthJekYt%R(ZCfxM(9')",
 "Champ99=R,dance=dance celebrate
  Dj>04Fw*^$UrQg%yvjdj# 248 306/_R63zl'b%Y(`lu2OwPS]# 164 290/x@x0k3pF4?3pvCB'dQ:@# 152 270
  PAmbs_2aZw^+%evI!-la# 188 260/:>C<*bKE!2v&lhovwX@f# 190 248/?BQxBx`7hF2)h`Nse7fK# 114 250
  *AZSW]WY74D0!S|iKBqD# 132 258",
 "Characters 1=R,person,boy,girl,nonbinary,non-binary,kid,character=pop=GA7N2nE5uq:NcFKI$K)z 1123@48000
  character1-a v(O(]U`<CwQ`Yyw4>+A^ 49.8898709690844 124.76092657062226
  gYNV|X3DqLk)0xGQ[C?p 54.60290188300769 122.98040317401274
  |Ic(eY;T%PLZqS3Yv%Y| 54.60291410943074 126.85057804587933
  @G*I2c>&l?FFX<-31H8w 54.602918664146046 123.84994499999999
  AK!:wu%+W`3qhpN(2P2- 65.725 120.67006881854581
  9$_vgA'Br*XAwx*vhenH 54.60291455471537 126.76429674297606
  )duVQG%5FU?Dp+*]WXot 54.60291143772301 125.34991500000001
  %C'lB'k!@$*NT?o&e?XS 54.60291643772288 126.34996499999997
  <GZXyD[wKM1b:iud_tg- 59.662344830457954 124.64983500000002
  %`(9A^V7IHn6t4IyyLRo 57.80000000000001 127.9064156368213
  U<9W)kew2$ezWz-!un0$ 55.00291821886171 122.96517404562759/MACtkmoPT3+n&aMC?<wQ 56 124.849995
  @khNZZh:arVBZW2jWTVe 56 126.73041545130786",
 "Characters 2=R,person,boy,girl,nonbinary,non-binary,kid,character=pop=GA7N2nE5uq:NcFKI$K)z 1123@48000
  character2-a Adp6S:lkc]_00KFp7US& 47.99056799868501 127.80503283089969
  b-I5v-VTF@:p0o]6eTA5 44.99552075655663 125.14875889583388
  bPmeAJ6V])*!1!k8kZ8V 47.95809 123.53880000000001
  dgi%or).TX_>ATG1H&oD 44.995540756556636 128.2061488659535
  ?7Uuhbk1MnR-jOzYocPf 48.00809000000001 122.45
  `nD$I:QiU&T];FZBYJe> 48.53553350541961 126.89993965793039
  L*!>r%bC4jT%ysqdUTNI 47.53308999999999 125.43368141092515
  hC1[5$x?ISh(^o^un_X% 44.953870756556626 128.08851543576878
  )F|P_ApOqf3B)FkUQOhK 48.00809000000001 126.87082000000001
  X[gw@'+(xT^<TK-o$`&6 48.64271853726632 128.03860864267807",
 "Cheesy Puffs=food
  ~ GwURDF9ghFkbOb6I(qn(# 87 72",
 "Chick=D,chicken,farm,owen davey=Chirp
  FL-kq_%TtiLYeqisA8ME 32 37/<FP46$I!-TqvaWH<d+ZJ/CiQt(biYpr'<yu])Pa4@ 21 24",
 "City Bus=city,bus,vehicle,car=clown honk,car vroom
  ^-a e$@+|LHESV(d`dO^B$Ii 106.89883432142048 66.13799999999999
  ERCPO^OP;k><yS5G1'<w 106.73206234507279 66.60003072266578",
 "Cloud=thing,weather,whether
  ~ [|keZzsNX:TlI%sdJWyv 71 45",
 "Clouds=flying,weather,W,sky
  cloud-a OG8uQa)rF+`VLfgz$jeQ 76 19/K8;|.'aBH%1`tA?_dqMF 101 20/!G!|X(..<POH:W2rf5a7 97 9
  OC.rT1OBsPjnDc+>th1` 87 21",
 "Convertible=car,X
  ~ ;ZqFcb4>njGbjm?b^*BE# 180 44",
 "Convertible 2=X,car,W
  convertible 3 zSNE!x<s%pp)ev>m$+cm 75 75",
 "Crab=D,crustacean,antennae,baltimore,maryland,Y,ocean,sea,summer,arthropod
  i4tKCL!@)-v6M_(>Oj5$ 75 75/6EKP7uDHb43&@*GHs[gb",
 "Crystal=J,ipzy,W=Magic Spell,collect
  fwg$Stj'.aEPsU>)azVO 15 15/$%_1MM(i5.BmGOQ;7K?: 12 24",
 "D-Money Dance=R,dance=dance celebrate
  dm stance `glW1KjH|jc%<gq%fsoM# 106 238/dm top stand P8Aktni1BPTMx'GGNLhJ# 82 244
  dm top R leg &K473l[1YM8'NtVtsiTw# 218 232/dm top L leg 04s?vyLx.&v!eAd7L1.P# 230 240
  dm freeze Qv+@C7eg^9C3J+TJljQj# 220 234/dm pop front Am1]ZVMCo4qL$V`sAzPi# 92 234
  dm pop down BC?d-FOrLmMeWhGbtFc<# 64 74/dm pop left yhb3C_4R%*o1(K[_fR^9# 204 250
  dm pop right (Kc-Ca6RA>S&t*TKdOMg# 78 238/dm pop L arm 2`3vG[R83n.A7k%?cl_d# 90 238
  dm pop stand vOl0-'D]&NiCCt7%06B%# 100 244/dm pop R arm 8TK!O[TmQg`<A(FgFB'3# 80 240",
 "Dan=R=dance magic
  y+As'va^.Q@g:;vxZ?Wz# 72 196/I-'pPA.?+A3&6jlyU!3]# 94 200",
 "Dani=R
  ^-a >HkRNU`GpmHNY:JXZi>- 37 141/.$7Xo.JMdJBEpzN.l$j; 86 141/V$lqyWlu[OJKcbKvcCCr 37 138",
 "Dee=R
  4`DV]7mHGB6Un^xgdTyo 52 99/c[LpHg[NiJ)OHk`i!S&q 33 99/)]S8Q&>zx0`!mc8*@*bY 36 102
  yRm@oA&:tRwqGsz@c`3E 33 99/ZQ2l5X7AxAvt.jvK0x$C 32 99",
 "Devin=R
  <e8uglAO&S7?QCA|&6OM 39 95/Nm;_gOa6]45afN_XIc2* 40 96/;FLBV5@CpxHU|<Pnvy%K 32 95
  XmizucA?Wy!GHSmuJ9E6 41 95",
 "Dinosaur1=D,dinosaur,A
  5;|r>40Ut!Nj%nczwRo& 98 92/F0$+_UsQI8aQvEf8Q$w2 98 47/+.HsbnS(you5.Fs7Dm5M 81 91
  T$.`GVH3[>+UOWGK!0kb 99 91",
 "Dinosaur2=D,dinosaur,triceratops,A
  CjE|'bBV%N*UBTR[nEZJ 63 67/`:J?Ff7maWf'P9'Odvy5 76 67/%.HM&)nsTy`(X0CAc'h3 64 67
  d%Jr-?`<35v)d|(?H&gK 73 67",
 "Dinosaur3=D,dinosaur,pteranodon,flying,A
  `'+iFMjOyWVb|)T_EJ-3 113 42/dBFQO'Hg|!!EW92tS*%9 113 59/Sm)Oy>eO|`$u_U]O66KM 47 59
  ]EZ85-j8!4lr0^+h?6&x 113 65/9>+6klL.5JpwBIX$N8iF 41 40",
 "Dinosaur4=D,dinosaur,tyrannosaurus,t-rex,trex,A
  RE0-EcS^Ek9tO4d5%i&| 60 52/S;WQfyp.WL[ix`swuGir 87 52/Zch_w4w49[yIlR|9ZxkM 59 52
  B:EgzW@U$YZ-DCK>DhF4 89 88",
 "Dinosaur5=D,dinosaur,leigh mcg=dance funky=8gQKq%o(.&?Dkch[V6o< 111761~,bite=?+b8n[SdW]OAm!1ewoIX 8129~
  ^-a 4K?iWGHV'eyY[;r0_wI@# 104 150/;5bko)RUlzH-i+)%d6hJ# 112 166/x?upENr$7^DsBDU-5jkF# 112 150
  Zxf]:4*Xp>L!LIQyS+JX# 90 134/h:`ucQ@Z:g$Ao[wLh<pA# 88 150/Ne0>c4maHRmbg6ed%U--# 94 166
  :evkQP4h(``Dq%A*409K# 102 150/264OCDX)E[0>?JqH+R2b# 108 134",
 "Diver1=R,Y,ocean,sea,summer,swimming
  ~ P;V9t++or%Z)5S!CLA9d 75 75",
 "Diver2=R,Y,ocean,sea,summer,swimming
  ~ ff>J<l;GM.L7''t'hHT> 75 75",
 "Dog1=D,puppy,puppies,mammals=dog1
  0[)A+]EXs_kfhL&l6qSF 83 80/_8eBAOOCg3^&4^*VxV<`",
 "Dog2=D,puppy,puppies,mammals=dog1
  >pa.Z^rY>[GZ!XrMvRJS 75 75/@0f>Bmc|H%;|`RoN.G3S/5]%XZpuYQil&NJPvHtyM",
 "Donut=food,sweets,bakery,baking,homer,frosting,sprinkles,sprankles=Bite,Chomp
  ~ yCBuJ7cEl>C9fX>@nX_n 72.11747235252724 14.658782444689848",
 "Dorian=V,basketball,R,A=basketball bounce
  RFpDiop$@?4TDdvyc4%y 60 65/EIATi?.*Gk]4Qt|Kg]>u/J_FHG1^-yZv_)i2Wd)eI 77 67
  z%Qi2w*dNzhv6ssP>XCK 77 53",
 "Dot=U,dog,D,wren mcdonald=bark
  %c.>8K+ydvX*]'1jufK) 52 67/*|WI-]1dAE^VrXqL>xRz 65 67
  O.TbvTMNA.;W%Rt5u[vE 50.53907324990831 68.96764494984302
  jyTK'iw(&@AI7MZZ33e( 56.58074394930321 66.76919584395038",
 "Dove=D,bird,flying=bird
  %MCWYj%l:wdI8Ap^ZAR. 86 59/Chol`zZ.t|0By+Sb(^hl 88 57",
 "Dragon=J,D,ipzy,flying=Magic Spell
  &L^`giY28_S%DI1yEc1! 124.12215277545062 106.25815347723332/3IsHL^pmjX5@Wc_Iivgy 152.5 99
  bJVWMu1v7c9|V[9G3<Yg 124.4550776985194 105.92484014389998",
 "Dragonfly=D,insect,dragonfly,wetland,owen davey
  ^-a <'2Xd>`BW7:|q^3PI&$v 108 52/'n_.)6ME8!W[46+(1xe6 108 46",
 "Dress=fashion,dress,clothing
  aW:161eBM|D(ebs-5z7k 57 83/7cwH`_Di_POYhp`vl^2( 58 83/Z]J(dzNYZ55BCd(RGpo4 49 83",
 "Drum=Q,C=High Tom,Low Tom
  ]yAfbn:HT]rz:oJY(?qp 43 60/5d6A]9BC8_AKtE&L!H.d",
 "Drum Kit=Q,C=Drum Bass1,Drum Bass2,Drum Bass3,High Tom,Low Tom
  drum-kit WKGtFcm3E0f0^[3O@a.v 58 78/drum-kit-b 3G|X'zhNSbto-YVCObCO 58 78",
 "Drum-cymbal=Q,C=crash cymbal,splash cymbal,bell cymbal,roll cymbal
  D$kNH:3UzV[+bZR$*QFA 30 74/wBAg+Eu!h;l-S>l(<sqr",
 "Drum-highhat=Q,C=hihat cymbal
  '<UT[n6OA+)NWQm`SvCd 33 73/H0Q`>9ZTi4P_pVou.j2x",
 "Drum-snare=Q,C=tap snare,flam snare,sidestick snare
  Z0VhM>mZIUUv|1dmH1+7 21 32/x]+U$m(;@$aG?y'J)+k$ 34 48",
 "Drums Conga=drums,drum,Q,M,S=High Conga,Low Conga,Muted Conga,Tap Conga
  ^-a -Rr$63N&IN<2gD@zhN>w 65 66/X9^N%lcMLMxC5KQa-<z8 66 94",
 "Drums Tabla=drums,drum,Q,M,S=Hi Na Tabla,Hi Tun Tabla,Lo Geh Tabla,Lo Gliss Tabla
  Tabla-a TvatQ3d78gyrj_;gB|rB 79 67/MX?czH9jvhp0fusRDm&h 86 73",
 "Duck=D,chrisg,quack,birds,birb=duck
  ~ [`vVXXJgdJU)odupl5*t 61 59",
 "Earth=U,planet,earth,globe
  ~ Bf`kj:t3C+Wsh`|dqNI< 55 55",
 "Easel=bedroom,art,easel
  ^-a Q!lYnf;<l1ReCpsX:%@l 69 95/@wSMVS3at>z$8!FraVD^/|-nh0o'@zng]u+h`f|)] 68 94",
 "Egg=food,breakfast,A
  iPmLaq9hmTIX^R)31|LJ 18 26/jB>ipBz<*kCmfq+$1qAD 23 27/$em%F*Lxl6Ml5A[>])9v 28 27
  TLP;JLr(s)M'Az@`CpT7 19 27/4$TkG6*i-8I7E0nY$!?N 20 26/WLllPv:3[f*wN]fGf3'S 31 26",
 "Elephant=D,mammals,pachydermata
  UpK4+40s64RKH@jjV1L< 107 33/.!6<tqH&N*LYsBavzok; 95 40",
 "Elf=J,R,ipzy,emotions=Magic Spell
  ds;E<)BKL1X]>GDV.LjG 50 140/Ki5evQ<bB&K&>wP+KE*b/8t>?vK9:F4`]<[g;T7mu/FI+A[@oSuazfHSNpAUDI
  ek5%$Ws0th]!:1cL6HwY",
 "Fairy=J,R,ipzy,emotions=Magic Spell
  3mS%J*KI-b$!q8O!KH&! 85 140/XR*5H'^+t1M1CIkPczMB/_'YGrbjc%[r]cZv7!TNB/KvB&]z@`P^kXNqY1jD3o
  aqItaPT<Q&Hg6PnwG4sj",
 "Fish=D,ocean,sea,Y,G=bubbles,ocean wave
  RHf4E6e-32wDe[Q6HNa> 63 45/DR$c^[IyOv)3.[uQblB3/6VUV`6u:X-G_h1SpVoX!/HbC*s'*<pXI[`nt]C6^F",
 "Fishbowl=fishbowl,fish,D,pet=water drop=RW2kyi_|(zdpg4`F[!yD 8129~
  ^-a 'osg(y)xST|j_x8k%uC; 28 24/UEAQ_v9iid!||&WB*%hU",
 "Food Truck=city,truck,vehicle,food,car=car horn,clown honk,car vroom
  ^-a Qg2>c.'H*$VVq693GxE) 120.82215422900005 123.2192
  h-bx]Yn*M<wcv9[V:]|I 120.82199999999996 100.675
  d^483oMRXLtu^ga$nQE7 120.82199999999996 91.45043052455627",
 "Football=R,V
  ~ running Etqtw.x7v7Lv<-iKP6g[# 92 200/~ standing [$%(w)QVU7_lrI$&36fe# 74 200",
 "Fortune Cookie=food
  ~ ZOea@&6;<;N`Gc0m;AY-# 60 62",
 "Fox=D,mammal,T
  O!a$iEh[Uh)+Z|;l8ZYW 86 44/-jh(DbV1OOoPZUKeqLO7 44 50/aJD9|0&_VHl@_$4Jyx*1 48 38",
 "Frank=J,spooky,R,halloween,frankenstein,monster,A=wolf howl
  %moB+|0;x.I9<UnAlRX] 97 63/ckb2BKqzyw3a<&%x&:t; 105 63/x<|jIdB:!U]wZk^J24Td 159 59
  ^$n_3GyqlW)Hu63b.I-2 106 107",
 "Frog=D,amphibian,nature,hopping,green,wart
  ~ 1V+D(AD%1ZE:3f!^++$r 48 30",
 "Frog 2 =D,insect,bug,wetland,owen davey
  Frog 2-a gR|AA!stWJ+;h-PEa!?c 101 60/`NStR%`wRHPGoIR|UG86 101 58/w&a^fP8Lc?c'144PE!HV 96 87",
 "Fruit Platter=food
  ~ @NixRN1izH7s43`s@7ZV# 148 78",
 "Fruit Salad=food,fruit=Chomp
  fruitsalad .NL)yqAO[U[h;F5nf2.H 30 22",
 "Ghost=J,spooky,halloween,ghoul,monster,A=space ripple
  hGjCdz1ojpp;44.::c9D 37 68/^yIB^x]N&h3fo!nXP*3c 41 68/zpkV@IQ[y_MJ8JHW@2yS 61 72
  3jd(G2d&c[A.4j;jcMEj 78 69",
 "Gift=thing,holiday
  %V&(2Ozem8.&DTRqC|Cs 33 25/@|G8q0c[zGy5yX?V286w 33 26",
 "Giga=J,drawing
  KRYOT^cXTAvALWFN4Wo? 72 96/Wp&KXQ])9UbOFbOQvlsD/0!R?Ywl9j^tx|*Q@iig7 73 96/`j@^cf+vpzRqh<jJKyhQ",
 "Giga Walking=J,walking
  Giga walk1 21Ax$V%(%CR+vPkxaZ2^ 70 107/^>fI%e%6&Tfg]sQXC?n. 71 107/`pMIfdF)-GSS5'Tc[!bT",
 "Giraffe=D,savanna,T=horse gallop
  4dTbz[viS[(^0EmK`b&R 87 132/f|nttoS7JC:eI[K-PiJP 82 132/]RtPNcBQTF&5.&.DRo2P 86 132",
 "Glass Water=food,W,Y=Water Drop=RW2kyi_|(zdpg4`F[!yD 8129~
  |G8o8EYKuwC;yeYDHON_ 39 48/|!tc2P%$wS-)2>gYJo|G",
 "Glasses=fashion,glasses,clothing
  A_iAp!?yH4j`Go3c)brf 33 13/g^ZK&NfVi2Cpl11:8fm1 35 14/O*G:;bQ_tU(!kWCO7+.u 34 12
  ~-e SA[*8ECfh4^hA!|Hzy]C 39 53",
 "Goalie=V,soccer,football,A=cheer
  Q1M?nn]5jS(q*<aQLr]@ 59 63/;3<IA6]z_`w>l@Msz<SG/geT-IqA'2MDvq<SZvyvA 62 61
  >xHvKEj1q&`a)bfU2+7% 63 62/eLWYA:([gZRRWGTmSzJ9 59 69",
 "Goblin=J,ipzy,emotions=fairydust
  3@cNS|%9G)zf??-Rf[@? 40 80/V`BKL>Rfu9rOZev&[zKU/-K*2LP]@m[eDox.h19SK/T4'SId?0.E`+P)(]Q8*f",
 "Gobo=J,drawing,jenkins,ganglia
  hE%GVPkty4BYl>+UmyN( 47 55/;g@9_f7Su^xM2ogg4f?P/NnIl)4l8g'IIdV!P5'7R",
 "Grasshopper=D,insect,bug,wetland,owen davey
  ^-a d@fMzOy25r*X-qhjNO1C 103 43/9':r*>GTGC@T:PJoMVi; 114 118/]B)B'8q;)d1OMzfv>eQ^ 34 170
  Qn$Fo-A3)kDa3M$2mVS? 70 100/_'G6tmzvI%re-Dnkw?tA 56 86/KqNNRCr65JwD|1)1<<9Z 22 54",
 "Green Flag=thing
  ~ -a!(v'n7Pn5RZ@gW:Rf3 70 30",
 "Griffin=J,D,ipzy,flying=Magic Spell
  ^-a PNEITq`qiM$@9Z<kN?Z0 127 109/%^w<'2e^(fPNDYPM`Ys0 127 76/'7G(F*C[K6:7t>54swm; 127 109
  VjIDxFoyM79[$s3b$!R1 144 69",
 "Guitar=Q,C=C Guitar,D Guitar,E Guitar,F Guitar,G Guitar,A Guitar,B Guitar,C2 guitar
  H?Ao|O*eIwVCC*JzJjK3 47 83/b@S%ncWZCkp?9Vz)^xLt",
 "Guitar-electric1=Q,C=C Elec Guitar,D Elec Guitar,E Elec Guitar,F Elec Guitar,G Elec Guitar,A Elec Guitar,B Elec Guitar,C2 Elec Guitar
  :Rm$|22w+R'uNcX8S?gg 42 85/?.ttAF2v?+.xPmz8pBIy",
 "Guitar-electric2=Q,C=C Elec Guitar,D Elec Guitar,E Elec Guitar,F Elec Guitar,G Elec Guitar,A Elec Guitar,B Elec Guitar,C2 Elec Guitar
  WYXhiubQj8KVh@rkvwCl 38 94/GF'GTL&f7R5p8SS3%f'0",
 "Hannah=R,V
  W'U)^R$Fm!]s1IWGg*oQ# 138 126/]iZT-l2U&iQWN1xt5;5O# 48 160/<q6&IL4jXO?^OE&-rk1[# 170 130",
 "Hare=D,rabbit,cold,north pole,south pole,ice,antarctica,arctic,T
  B>hCRLwZx_<IgYp3YhQh 29 50/[Oc8eR)*?y*NC'$3`-&k 57 35/Gr7Duf8d]C@JayB27jn| 40 40",
 "Harper=R,fashion,clothing
  1ov2YOsD@-@&@@_hxpm& 54 143/cI&%vCS[xTNagvX%-dC; 54 134/MOyR+%tJ2JI75!v_lTs( 56 138",
 "Hat1 =fashion,hat,clothing
  hat-a ZbhT'y]9NcOlBoCWopQu 37 30/$0`CkjFV@$o&h?INam6$ 39 22/&ddK;pzj0$*ekc]Y0mO* 40 27
  zqx0!hi'^'*C9ZTh1lEY 45 30",
 "Hatchling=D,chicken,farm,owen davey=Chirp
  :&'j8d$6?C^sKC]-@I%W 15 23/%0eM?<V60IoM@L96obP7 16 38/g[:iAEjZW3:hE1`i|Fh9 38 72",
 "Heart=holiday,red,shape,love,emotions
  ~ red [-sL&Mqc31XvaiDq!u]u 65 56/~ purple brUqrwmY8S:9xBBu?vTe 66 62",
 "Heart Candy=food,sweethearts
  heart code xfCXfUTpzo_hot><k.!h 73 72/heart love 8XM?Hnc.MsZ'MRCEdan$ 73 72
  heart sweet 3z:xy72VOle7a_Q9a&$3 73 72/heart smile <l2?dBiCJq`iHM.itNcN 73 72",
 "Heart Face=emotions
  ~ MIi.q^50eNPBnQwP6@kL 59 52",
 "Hedgehog=D,G,mammals,spikey
  235Hz+|f+!WhKL$&VBY4 71 56/4GB]B`<2]biyZ$dhk2'h/yY``uYA`wEVUwzu-uNc./L'.b)LGJ*[W;VywH6;L@
  *7fs+63agu'cMFwe|6ZQ 61 45",
 "Hen=D,chicken,farm,owen davey=bird
  T>p_L0Jhesw)!Tbd5D$L 60 53/]_v6x<xu`?WeoW&TceXF 63 50/[c1mGQ(ZmNPi:O]1BrJ8 56 53
  @Y81JN)'kEnR*|qXqvK$ 51 77",
 "Hippo1=D,mammals,flying,J,insect,pachydermata,snortyboys,flappers=meow
  K:y??M;lYMkzlfdd%:0N 69 65/:IB)@.bk2T'C5Q78HZA- 69 68",
 "Home Button=ui,thing
  ~ )r|6ETuO._J%e+KdEitI 72 72",
 "Horse=D,hoof,hooves,mammal,racing,saddle=horse,horse gallop
  SL6)S^Mr&g[L-__Af(6Q 119 83/%)Cx7k.Z5JFfaVvm_wNb 103 97",
 "Jaime=R
  3wc<>6?r&vsiLZk00+LG# 76 154/;?'(ZLC*FTf;b]RVQvDA# 68 154
  ~ walking-a _U29L3*6bsxs_hQjJ_1S# 106 172/F4;npSB+FVecmX6dSP@u# 52 176
  :e0)LxV]U?ib@(GZ38))# 88 170/7$M`Psrzhx3;|Mtv$T?v# 46 174/>+0cw_FI^@<]8yL)gXn_# 84 172",
 "Jamal=V,basketball,R,A=pop,basketball bounce
  2XzYgKDMlTB>cos%B)|: 55 49/+Kcd1]vdt[ZPELvJ4bLp 75 53/?Yu[GmzXvss+zF(k`L$b 54 102
  KZ]wy)kUkr$ibPRl18nI 54 95",
 "Jar=food,ipzy,W
  0'1W)gu6(l-tCb--^hoK 20 25/bQr0mfhsmE@+;mXMn<S]",
 "Jellyfish=D,ocean,sea,Y,emotions,G=bubbles,ocean wave
  7c9^@+JX?nqL2P$iW[DA 99 86/;vhu|e2<Z<BPc.GcYea`/!4L[T+)y*$6E$$vB(W1C/yAVnAd-]PMiJ?9QreqPv",
 "Jordyn=V,soccer,football,R,A=Goal Cheer=(HH(^)RuYrVu`*|[YtDQ 84329~,Referee Whistle=ET;VtABS)E&jcIy&nF^e 14225~
  `odorCgghx`KX_N!bo!H 51 62/QnTrZBM]UhDiFJ.T[0f- 51 63/CPz*)C]X6O7%iYb_YZK! 68 62
  !4E|7sNCEjsE4)@*wm'e 40 62",
 "Jouvi Dance=R,dance=dance celebrate
  jo stance AIDo6w5^F&tjc?ERZysU# 94 240/jo top stand %<HReD:$[g50bjP!H+98# 68 260
  jo top R leg fj>Ua<.dJ>A8[[xmTD(!# 218 262/jo top L leg OtakxO><KX;<ncn.O>6L# 208 268
  jo top R cross YdK0m_TNf*^X|M[D)+ya# 144 270/jo top L cross .Gk)slacDE]pe;A3+0Sg# 84 268
  jo pop front 2iK2%@)j7LklZj&0S$5A# 70 228/jo pop down Q2Q'ooYn76n|?p6KSQxx# 68 74
  jo pop left e?GXC_g_rUfc&9]GaO+0# 196 226/jo pop right !O0b-qbhdy[Uf%.HT.jO# 66 242
  jo pop L arm ROcvvFdQX+3JgrkKqqFu# 108 258/jo pop stand CAw-43uxK;SIuK2<0wJ?# 78 262
  jo pop R arm Rbasw4.7eBFDkZ!3xwxP# 108 260",
 "Kai=R
  A&RFe?96:FJ[5J(OC4J<# 68 160/YLiibxspBgCkRPMdta@b# 82 158",
 "Key=thing,J
  ~ ?z-^OVRf+f!heLX4m&n) 42 27",
 "Keyboard=Q,C=C Elec Piano,D Elec Piano,E Elec Piano,F Elec Piano,G Elec Piano,A Elec Piano,B Elec Piano,C2 Elec Piano
  $._(kQ43Zl_d|R[l_19) 72 68/A?wmBC9OOuoi)yw;yIIZ",
 "Kia=R,person,boy,girl,nonbinary,non-binary,kid,character=Pop=GA7N2nE5uq:NcFKI$K)z 1123@48000
  ^-a ck_dME_oKW4A%TziHkp9 38.99436950683594 133.91017150878906
  UDA5!3^c4D29^0Acs>u_ 33.86018625895264 133.81014001838557
  `rft^HFW;AM)$7xEXeM' 55.533868959382346 133.7360717987814",
 "Kiran=U,R,wren mcdonald
  E.Qc^u)a`As'j(UHtc@v 67 95/TC3S+Q_F;j&glsMRCGh:/D1W|y:PyJJp`LCb|@GOg/xuhG.K([(ivU*$F;nP0l
  D9mz<S3VoSFqLOxUOAyw 77 95/FwlW%1sKtE?r^T!KL|7D 62 94",
 "Knight=R,castle,armor
  ~ (-?1]W3A7zefC`FTs+|3 75 75",
 "LB Dance=R,dance=dance celebrate
  lb stance B1>60$'w[r>>XZP`Pn8># 54 244/lb top stand d2OwQj]:LBTUC]n!r%IP# 70 248
  lb top R leg DKYj66rKlBKhy+)nk*W!# 244 250/lb top L leg >)yG2U3`c**K3Ab|_YMN# 234 286
  lb top L cross >6e$D|4)HNM88ZlKTVVW# 148 258/lb top R cross 4j8w5kzaD_7pqxE0xn[]# 174 256
  lb pop front ]!w|VB@sct8;J?c7bJ>J# 66 272/lb pop down :-v[f0lFWEOIc0w67.j7# 56 90
  lb pop left 8u`SEv]hS4LjJwocfW7A# 198 266/lb pop right wr:6-spExgV|v|_2llvo# 76 264
  lb pop L arm UbPrvNWrb-&Js8t1NMZ]# 100 262/lb pop stand <^x]J:BcwjMqHN|)hQyx# 66 268
  lb pop R arm w(%5E.|xrDM(3P.5@YC3# 78 258",
 "Ladybug1=D,insect,bug,antennae
  ladybug2 'S2q|t>5kI!`V4hqa02b 41 43",
 "Ladybug2=D,insect,arthropod,antennae,aphids
  55[AZBlQ1hwwU_?*jwwc 49 28/3Fs@9RI`t;UmM|U'[3^1",
 "Laptop=W,computers
  ~ |ebJ-PUtzToi-zg5:qoV 75 75",
 "Lightning=weather,whether,J,storm,thunder
  ~ %$M51(_)4-UJR:1M|!By 21 83",
 "Line=lava,shape,red
  ~ d^EfGO_gnF[ED$MbArVR 239 7",
 "Lion=cat,D,africa,savanna,T=pop,grunt
  dd16mZe!Q2Fut&yoqrua 95 43/g2[:6y9x1@dBv7ce?v:$ 94 43/KJq!bx;Eox94MFU$VK3W 95 43",
 "Llama=D,mammal,T=snort
  ~ [^o:mJFWH(qhTG?0i?@0 72 95/~-b *)c[RF6&P|dBz|zHc]+J 92 90/S93+nwX>pc9vev+)A2zf 73 39",
 "Luca=R,person,boy,girl,nonbinary,non-binary,kid,character=Pop=GA7N2nE5uq:NcFKI$K)z 1123@48000
  ^-a K70W:?J's&C2t^(5wq_[ 44.518938859952925 130.28487970293187
  (6;EPUuHJ(;y2k?BL;mH 41.801770753585856 130.2642790555675
  LdLV>^6:ocWm*SSI%J2I 50.565256229860694 130.02168173555543",
 "Magic Wand=J,W,zap
  magicwand Ixv+OH]q9AVa$Pw.M6X8 41 18",
 "Marian=R=Hand Clap
  ^-a evWPSOFX%':e*WT6'fox# 108.5 226/2grfThw%[bf1eSiFuk]6#/*qBpcrM[2mwD3S5-<'po# 70.5 226
  >0m)poo&HrJ!>pyH!$-J# 139 219/'QB)4|n:!LK(-Pti!:b!# 69.5 211.5",
 "Max=V,basketball,R,A=basketball bounce
  8aCl_is`Gr%teZyUT_p) 70 61/LhkO9*V]SrNW^J!Vg:zn 71 64/DoPv7Ayi;S&M`&fZnS?n 46 59
  @?5_Xx[21r]cJTA)v8wU 37 59",
 "Mermaid=J,R,Y,ipzy=ocean wave
  HgSWzsebj?NaxnQHW+xe 92 130/iRn4vz<c<L-r^>_3d!hA/-?0nWznM:9?h(w<^)z_9 150 115
  >Lkqi$_WBcE+;cfAMEAq",
 "Microphone=Q,C=Bass Beatbox,Clap Beatbox,Hi Beatbox,Scratch Beatbox,Snare Beatbox,Snare Beatbox2,Wah Beatbox,Crash Beatbox,Wub Beatbox
  _$aCCYVv|UPW))o5b4F5 40 88/[]*|!az&_mhMbYS%TjrH",
 "Milk=food,drink,A=glug
  RYB2OeQ:fvNCUKI|*9nL 32 63/%Ja%w^kaokbJKf.(!_mF 42 64/*4$0m<!0k<rC.@B0BG]l 47 56
  7Lpg6*5cZNk!|m5ketFM 45 64/A9CT__?00[K8m2JK8<]G 35 45",
 "Monet=U,R,wren mcdonald
  78GHd.tP)L'b;B4NGIH? 64 87/&Z``]zGnT`OkSkZD|8FZ/&|P84cVI1t>gR0d[BNlP/BfFy-LHrwN0:f:Z|7LtV 82 87
  ;WeHHt7g>S3*3KNCAlQ5 65 89",
 "Monkey=D,mammals,primate,prehensile tail=Chee Chee,Chomp
  +ji9qDKpzD-$rT0)8d5( 68 99/a^!q]LEk2cC+EXk52gH'/eo)(SiHs[8a]]rCm'3tL",
 "Motorcycle=city,vehicle,bike,motorcycle=clown honk,car vroom
  ^-a VC?:Rf:XX(Z0_ZerPr%Y 51.21999999999994 43.599999999999994/A5%_Q%4Eek^5.I*fx5bi
  Q|!::a:JT^THR@2<A2ZN/ZusWOINjKE8uXMP9f|hf",
 "Mouse1=D,mammals,rodents
  Z]xv)u]x>%YFxH$%kvC2 50 27/I@HRL%d`]AQCEr`]LH<^ 65 21",
 "Muffin=food=Chomp
  T1kT.NDOurmKnimR?IwI 85 48/X)K%fWUS8%?aSD<IzF`J",
 "Nano=J,drawing
  QFPe&sgmWDKQX8f1)1fJ 61 60/]sY]cX|kLLPhfT+7<X%z/J_bK!AJw2P'feHJWWpk&/Q&Be&b2B[[`-X7D;T:6!",
 "Neigh Pony=D,J=horse
  ~ :u(0'Tc$XEP^)1a`Ng!; 74 78",
 "Noor=R,person,boy,girl,nonbinary,non-binary,kid,character=Pop=GA7N2nE5uq:NcFKI$K)z 1123@48000
  ^-a 7EN^>HV>OJa:I0a4bw@J 38.4758779691426 130.22760078036825
  M*[c!$0X:nOc;hUcE!(( 41.73210898803782 130.22760078036825
  YBdui|ird13!n92XL[oc 50.673619073816894 130.25802625960853",
 "Octopus=D,ocean,sea,Y,G=splash,ocean wave
  bp-FE(bHS)]zz4`U6h9L 88 86/N96E?sB6)E*P47MwLD(-/EK1V:0Y`$|P1_*rXu)0X/hQ08XvutMGEct$Zu.XE0
  <4sHXKB*JLSJQ5KNNS!M",
 "Orange=food,fruit
  ~ ]f_mSALVY!)zV3(Kkps( 19 18",
 "Orange2=food,fruit,eaten
  xD54a_-*FN6LAs+yhyrD 49 24/VZPys83xhd(l!dAQGbFK 49 27",
 "Outfielder=baseball,V,R,A
  %an]|)^ASsyFSo*RV]r] 42 78/]g$lktQ<X(LE%rMz<C]Z 42 74/OCGHhz0wcS;x:|)bjS7] 67 97
  'es>k8Ax?uum1[TYP>7c 130 114"]

end Catalog

end BlockScript
