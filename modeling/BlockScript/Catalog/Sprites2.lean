import BlockScript.Catalog.Sounds

/-!
# Published sprites: Owl to Story-Z
-/

namespace BlockScript

namespace Catalog

def sprites2 : List SpriteRecord := List.map .of [
 "Owl=D,bird,T
  Q+]lO;H;2)V.$dpGTAyR 24 40/+<WFLqMmTuS`i*09k?:s 44 46/FDpk?YjW<3zb7zPS*-__ 109 41",
 "Paddle=thing=boing
  ~ '8<q'ry7UcZS%BoOj)J0 44 7",
 "Panther=D,tiger,leopard,T
  %3mUget.>29?FGSj6alU 125 81/6|t7]k2m1YL-CAy)ed'[/Qkc[&>:1wx;7P9Gv5%N5",
 "Pants=fashion,pants,clothing
  fg:[SBH3Ox5(V_(JZ*Ts 34 66/S;l5x.<Bi8`g;5GYimnC 35 66",
 "Parrot=D,bird,birb,tropical,color,flying,flappers=Bird
  wAd1v0^K1.3;zn_wG9Dt 86 106/v!-wr1WY-<O@SF(gk&5* 49 31",
 "Party Hats=fashion,holiday
  Party Hat-a )IPA+sc4|O&u|vc_PG-F 24 55/ISS?XnX?@`us2Qv|K:ZI 40 61
  Party Hat-e S+y7M;aR%Mu$rrIyV'%l 52 44",
 "Pencil=thing,yellow
  UDtp*gW<Jgz<GB(J_q%e 49 54/ftm+6mukoLNw2_uX:(JJ 48 68",
 "Penguin=D,penguin,cold,north pole,south pole,ice,antarctica,arctic,T
  `d1K|5|ax?B3.s2?uw5F 36 46/Z1L'dBM3s7-*hRb<5Am4 26 46/@dH^+@;kSGQ[n1!y|(Zw 35 46",
 "Penguin 2=D,bird,winter,antarctica=Chirp
  penguin2-a 4BEL%-g5:*!aGtgK2Jjm 54 61/^qetkLh:cY4Gc)GZfF14/xZA'Y]8sr6*PQg81jKtE 48 62
  Ct_MKG!DDzT])VJ.mkUn 48 61",
 "Pico=J,drawing
  dQR%USOrwm|]7A(r>al3 55 66/QcLhdRu_uFNOZrAfA|A!/Xvi]HCfOCEpXYi7A&^p:/_W$qXAd*8S)R`R-?r8>_",
 "Pico Walking=J,walking
  Pico walk1 [R8u7kUITHg;%aw`&_WY 54 71/9(gi:M>!'a>ecYBe%GMS/A|zy3P$ZUr8-3%(-)Fn` 54 70
  +1_l$Mtp^Z%xZpH'5Z`c",
 "Pitcher=baseball,V,R,A
  X&o1@lC%4%*GQ+`hqP(- 42 74/vz.m+(Aqoy-qxRol[_dV 75 97/jVCL51[`LzunbbmwI&r9 69 98
  Sk]tS5kYr-C-W>-_IZ]i 84 57",
 "Planet2=U
  ~ 8PxLY%(y9_APJsj?QtBO 72 72",
 "Polar Bear=D,bear,polar bear,cold,north pole,south pole,ice,antarctica,arctic,T
  ]^Nq0lt%;`'%%?)W*[EU 104 42/&1?+80XMs1ZO|msZuC6c 87 47/<6Bfm61e.&03zn3m_z:[ 104 43",
 "Potion=J,ipzy,W=Magic Spell
  `:+<ibd:g`!PIDU(RXcW 15 21/%;lQ17oiCcgZ!@+2RRn% 15 28/iARoUj$dSkPh2j5bn^7G 15 42",
 "Prince=R,☥,J
  ~ SUqrhJWx9%YcR+rik^Zl 75 75",
 "Princess=J,R,ipzy,castle,emotions=magic spell
  cpJ?1pG]Y]:|D^A3YJXS 75 150/W9$ho]X`77SP&|RlC1FL/1WC-`M!09(0gKiONNh)4/+7-mj:IAa6SHYa-L].&F
  w'_w&E|9@kfPgd65KW-q",
 "Pufferfish=D,ocean,sea,Y,G=ocean wave
  VgNaZZDZQJ+%Y(W'Pi3L 69 61/(rY;E[5usDDLvbF[`;65/+wA^kE(:k8a7`EW1`tSD/dCYD|x'G<y7qLx:.7nxk",
 "Puppy=D,dog,puppy=dog2
  ~ right xJI7^YTp_aIud(-%*0Fu# 107 103/~ sit [.7REZDQa[4Bx2f6O%NB# 87 112
  ~ side Zz;`.RO;D*vr)e<O'Hyl# 104 114/~ back vQI<7U^;KVLj(w^eXZl@# 234 94",
 "Rabbit=D,G,mammal,bunny,bunnies,fluffy
  Mwnsr0Tnl`3;pq:U[C$q 84 84/)>WSU(GiXlm^G4vc7`IS/6:qnJKus`]yb4UZgc3RQ/K(tm_Q(EA0!.Sw9&Y4xP
  &ZN&QxC@Q1`53&fz`yAC",
 "Radio=radio,Q,beatbox,bedrorom=scratch beatbox,snare beatbox2,wah beatbox,bass beatbox
  ^-a G%oma<EOX2l(Z+m_9Wrn 52 38/e$(j5z43m]&G?&_<VD2U 51 84",
 "Rainbow=W,flying,drawing,color
  ~ !pmxIvSoc*&pXDS.S0Q7 72 36",
 "Referee=V,soccer,football,A=referee whistle
  5Xnv7EaM)]-]$gmza&&' 44 63/Euk|`nxyN3.V-5f+@G1V/;w6!5F5M:;.F9rk2?CTi 55 62
  )CL:cBQhe*joJRSl:k7@ 50 63",
 "Reindeer=D,mammals,holiday
  ~ z.ITAcA`P4?N_*Jg1yNx 39 70",
 "Retro Robot=robot=computer beeps1=)WFt7Mn`9|ap<5Xn&@G' 76800,computer beeps2=xlC@CYq;dAkHX@yFgqLK 38144
  ^ a 0Glr7RDg1vSjqZaf2e!] 55.04000000000008 85.55/]u+P|sT>v*tG7B1Z!wDp 50.49583299552708 87.39
  97*0MbJq+eD$RtDK2BUc 70.61999999999998 90.3795",
 "Ripley=U,R,wren mcdonald
  dENd7KgwDb%DJ%-K:LM5 57 89/2*8vec.bjwP.lR-mwp8I/v4(YoCjVQ'?rI*BKY!f7/JDY-kK@L`>OpQ94izn-m 85 89
  iyh9$pcOZ9_?gg|?[]?N 56 89/K7Ug3<3<((i!I:HNALp^ 58 90",
 "Robot=U,robot,wren mcdonald=computer beep,collect,buzz whir
  I%P&a'BZi_xb6fZ:ZA!T 58.44040786180267 95.79979917361628
  0t3e`dU&U7amUOVQ1L<$ 55.442543885282845 96.58879942566811
  8+RR*f>I|TIHUt-IG?IT 62.61885234361475 96.97427621034126/%Zw41tg@tR(SHx9Rw'.J 59 95",
 "Rocketship=U,spaceship,wren mcdonald=space ripple,laser1,laser2
  9!Ye's4R^MY[fC!4kjX! 63 92/%qHQxU`>>Y6A]?'+%CzC 54 92
  QZbt%ij[I0BDswqy@GM3 58.746896096779665 90.91206944356854/:3Mra+MLER$'PR3!uDsC 65 91
  6Og._1c(80]1_[2>l!*x 57.220799012796846 85.12261084456834",
 "Rocks=W,potassium
  ~ 9iMH+&Y^L-noAq$3&^Id 59 15",
 "Rooster=D,chicken,farm,owen davey=pop,rooster
  $yb|<foEGEX'1]|)g?[x 59 70/X21o.Rk>(&RQ1Tb7.>:6 58 70/>;]en!VLA6WQ:9|<c1ZA 54 72",
 "Ruby=R
  Yhg<-Vx!e4&qen7TEh&w# 54 172/jJ'Sd2g0(1wC`z(1KgNZ# 76 142",
 "Sailboat=boat,X
  ~ [oQ!95o>t<JJ!se+2%zN# 224 182",
 "Sam=R
  ~ FmqNRx:'wtzZJmUYH3$(# 117 159",
 "Sasha=R,person,boy,girl,nonbinary,non-binary,kid,character=Pop=GA7N2nE5uq:NcFKI$K)z 1123@48000
  ^-a c!0B[DF+?*-$BgwV+e)! 48.12538146972656 132.3017578125
  Oi81BIG.P1RVN8.j*tC5 40.4882598059082 132.05174255371094
  I-WMZK'zy9v<'D$2i1SP 56.06647351528716 131.95398475097656",
 "Saxophone=Q,C=C Sax,D Sax,E Sax,F Sax,G Sax,A Sax,B Sax,C2 Sax
  4hl79L'$`JQJU+jQ4K4A 47 80/59SYbl([7KFtY+CXrLhb",
 "Scarf=fashion,red
  ^-a *[VYTs|SuYO-2xbC;e4* 54 23/vXrh<26O%6<<CE)g:e9A/6^KJ|eo4uNQtuqUfuK1p 30 44",
 "Shark=D,Y,ipzy,fish=chomp
  @V@I6]Xy[VYy9K81vtwE 150 60/VHO'WH-0Z%Q<+?<Hqx.q",
 "Shark 2=D,ocean,sea,fish,teeth,carnivore,chomp=Water drop,Bite,Water drop=$5IB0XTPsc`K(%f|rB!( 11648
  shark2-a IAt|CY-cM9sN&F]J`)LZ 75 75/zE&b@jzce^SGsw6^B1[]/F)?FZ(e_I!:vPzcn^f6S 77 37",
 "Shirt=fashion,shirt
  4dXmNd$V`pB@WPgXz.`H 46 40",
 "Shoes=fashion,shoes,sneakers,clothing
  iI5)Vj|[Y6^d]?hgwPYd 40 13/B-FsL4!lolu9x6@L62a! 40 31/~-d )lgrONoe'tRt_I>>u-EC 44 32
  ~-c B<.-iZ'.|YaGRC7&ZBWk 45 33",
 "Shorts=fashion,pants,shorts,clothing
  e>Vd30bH0Aup>6w-<>m) 35 37/_A$th>(*`1(R5joMYFYH 43 36/7P*]lNv7xRYVCv7M&4Qu 35 29",
 "Singer1=R,Q
  ^ _ZxaG9ld+30+gmgFN](% 75 75",
 "Skeleton=J,spooky,halloween,bones,monster,A=rattle
  ZA5reMDpjHkmR@+wLz|8 59 100/h;3SIQT1%ydw?_F$]f)9 69 90/~-d ?$[l7nr3)oLmpZw&kIQ< 51 100
  2cE<jlx>%dF;FwN@-kTV 55 89",
 "Snake=D,reptile,T
  g3s<M$$qlPc&Yna-EfmM 142 68/4z3Y89GBo[x]cjzN2b]8/Oh+jq0Z`W7oaVAiz6;rp",
 "Snowflake=winter
  ~ wBPr`C_viFHuD038<z79 104 103",
 "Snowman=J,drawing,winter
  ~ %B8*n<;A2hvK>f%FLY&t 75 75",
 "Soccer Ball=V,soccer,football,A=basketball bounce
  ~ <8qt<B.LLg1_%>5oawOK 23 22",
 "Speaker=Q,W,bass,treble,concert=Drive Around,Scratchy Beat,Drum Jam,Cymbal Echo,Drum Satellite,Kick Back,Drum Funky
  ~ ?`t.)GKmQ-Ozxj4%(5`H 53 79",
 "Squirrel=D=meow
  ~ Vafz:tZyK@HB^r`Z+m;f# 158 146",
 "Star=shapes,U=collect
  ~ 9e5<e$2vgigQU'X(:|3M 22 23",
 "Starfish=D,echinodermata,Y,sea,ocean=collect
  ?j!.%<`XWD)7kwk7q93. 75 75/~-b  XF&-hEC1Cy1jN37[%.TP 53 60",
 "Stop=shapes,W
  ~ )dTXHHaR(M8_bx)3BiN( 25 25",
 "Strawberry=food,fruit,A=chomp
  .lPa9dR!V>ULEQ(%|36o 31 47/>bX3$AjxVPb-z_N7DSW@ 43 47/%pAq>tOJVuGMd)V->a>c
  RWe7mtOS17COL>]GGwc( 41 47/hDP@mW&!htjqn:HVc.(3 32 36",
 "Sun=U,star,hydrogen,helium,fusion,nuclear
  ~ 3bgm?Kqmmo;:R0q$ENp* 54 54",
 "Sunglasses1=fashion,cool
  sunglasses-a [|!K%apk<2aE9*].8n[s 37 14/a4FX7o7Z:I2mV5kb9:uH 29 10",
 "Taco=food,designerd
  ^ 1BTNL5U7Qq*u!y`.!$4E 78 48/^-wizard [^5y(h.'czPd]05@'FdY 125 82",
 "Takeout=food,A
  3pSiJSrYc+S&S%Osq9GZ 33 41/b@&Q>ca&a8[F@f')qPMT 33 42/+^`p>EM13v@fql:GL%08 33 53
  -S?917W[m7a0aVbQ;M-3 40 42/KPcJrza0LnhdUa`CHE[8 41 35",
 "Tatiana=R,person,boy,girl,nonbinary,non-binary,kid,character=Footsteps=[Heg@;NWJw)BE-;>]b]P 256348@48000
  ^-a <)AACOpnIav2Xs9m>^.2 60.66618579359704 53.97647634953694
  KP(T)M+?:pCm:M;3^x-T 49.74537298932822 61.254895800177906
  blKraHPn0xv%@EGsK?Qh 60.666205767105936 53.86536113811712
  c-Ddkr*h0_ptTuSKw;pF 49.85653018505951 55.72124957487232",
 "Taylor=R,person,boy,girl,nonbinary,non-binary,kid,character=Footsteps=[Heg@;NWJw)BE-;>]b]P 256348@48000
  ^-a Sbf8^IY'70sX$qwI7Z1L 59.066061145351995 52.19126
  b:sAIHwQ2MT'`r.T[+aO 48.612321639466984 53.0163/Sbf8^IY'70sX$qwI7Z1L 59.066061145351995 52.19126
  Q)bzX[ICGCrm%unmq<Bw 48.945654918401004 50.35257000000004",
 "Ten80 Dance=R,dance=dance celebrate
  Ten80 stance h^dFA^.Xi5PM?nq&F!hf# 70 278/Ten80 top stand Uy>[mn<zw5NH]!ML&H6w# 74 274
  Ten80 top R step :YqYdd0QQ(Ajm@SMnkLs# 200 270/Ten80 top L step ccLzEWuqCX'fR';[<OQ?# 144 266
  Ten80 top freeze G2agURtAtxkD+73R_$Pg# 54 258/Ten80 top R cross bDLHeTe$`aTzDt<Pte(i# 206 252
  Ten80 pop front HyKCF-QY+Z+6sJ<-fme<# 72 266/Ten80 pop down k4YmaNZz;lNGC')^z`q_# 74 188
  Ten80 pop left 2YTX^*C%EaoP6H;sa9Ra# 184 266/Ten80 pop right 9WiTQA2s:kp4z)oZ!_&6# 78 276
  Ten80 pop L arm ](BrMcYCqEh_b7LgRfk$# 100 280/Ten80 pop stand 1y^?I)cVkKmAlfA%?$W]# 92 280
  Ten80 pop R arm xOC[lH!qW3MD+'%oWbq:# 74 278",
 "Tennis Ball=ball,V
  tennisball 0FX?&?I'Mw-CwM82Ge|Y# 30 30",
 "Tera=J,drawing
  (8fpazxN45`kl<t0&Zu: 49 63/0ivZqPIorFaf[n4$.wvv 49 64/.;|SE)JO<VpDdnG`-W8y 49 63
  9R|c9zPdl]r`VEL4?L0&",
 "Toucan=D,bird,T
  Oz!QB+hiM_5u9_PF!jOj 80 63/BC'ti>u.f''wN4%grKiz/V*RmiPN'07%Txp;^l4[d",
 "Trampoline=V
  ~ Jk$f`*u`UzpoToNqM>@[# 200 82",
 "Tree1=plants,wood,forest
  ~ ]^!6|E6cEQF2;a.WA>sD 77 126",
 "Trees=plants,wood,forest
  9e_.U1|if>r6J0`vbbyE 49 94/v:JD]o0kt:UM]2ZtS@O7 36 87",
 "Trisha=R,person,boy,girl,nonbinary,non-binary,kid,character=Footsteps=[Heg@;NWJw)BE-;>]b]P 256348@48000
  ^-a :vMD;hvRllM[q*x-P9yZ 81.34455278988648 57.02459255690913
  YkLziN>)iQXz<.(05zrY 63.260135124357646 60.86251166255646
  :vMD;hvRllM[q*x-P9yZ 81.34455278988648 57.02459255690913
  .+QY78.*C+>^BCU?s|G5 63.275047131412066 55.525379847189015",
 "Truck=truck,city,vehicle,car=toy honk
  ^-a R_]1ekX7C7T$X@Z[Tb5n 173.6413034351145 48.359999999999985
  >&v@iP4.qVY8j*tm[TM< 173.6413034351145 58.14
  ]%n!TMkNi6u1%A7i^5[F 173.67363114754104 57.74000000000001",
 "Trumpet=Q,C=C Trumpet,D Trumpet,E Trumpet,F Trumpet,G Trumpet,A Trumpet,B Trumpet,C2 Trumpet
  5kkdW^*8ORk3Yw+7N4tc 57 38/MuYCmz9L%C^IUE^RAaO: 55 37",
 "Unicorn=J,D,ipzy=Magic Spell
  ~ &m-Y>g!i?&w$!z6cfbD^ 91 95",
 "Unicorn 2=J,D,horse,horn,rainbow=magic spell
  ~ a>Mz;Bnr3n406D)_zJ;a 75 75",
 "Unicorn Running=J,D,ipzy,walking=Magic Spell
  5]xOObd)]8[7HDEtnkid 118 90/itZAiS)M2:>cvnH8g|L1 120 89/ft&b+W[7Vi@Y^+D4<O7H 121 90
  bTU|clp]Y<%rHNr+w7|f 120 87/Jqp2o3Q$e+^M]1?LDIUy 119 90/*5L4)xX[XSo'QgbnggD8 117 86",
 "Wand=J,ipzy,W=Magic Spell
  ~ Y!R7Z3&<|LRfnszyO3Nk 12 42",
 "Wanda=R
  ~ $2TRhzPE!1SJ;$]@MVN& 49 68",
 "Watermelon=food,fruit,summer,seeds,seedless,plants=Bite
  *in2%8hfQ>6.Zn+4!6Z] 40.13434982299805 27.860475540161133/)tV|8Vc4%xPLTiGv3_T0 23.5 28.5
  ?.VJCJ@2%FMhKXGg%C+o 21.5 16",
 "Winter Hat=fashion, clothing,winter,hat
  ^ x2T%ZeAm|M$tRF@yn*FH 35 39",
 "Witch=J,R,ipzy,castle,emotions,magic=Magic Spell
  5%S(?7chl8v8FnJLQS%k 65 140/TU-oiZW[<^KFL[zS--92/>loE'_54%YF'qr2Ck@fa/Qpt%BdfRE'@:+bw5(i84",
 "Wizard=J,R,ipzy,castle,emotions,magic=Magic Spell
  KL<MDRYr7`.M|?fbOP.` 87 150/9u+exGB3_P_4(Obt-MLZ 79 144/by`J:M6pkao!a3he5ev* 87 150",
 "Wizard Girl=R,female,girl,wizard,magic,J=Magic Spell
  ~ 7++>aw@rKgLK>gA19.?M 80 91",
 "Wizard Hat=fashion,J,winter
  ^ 1c(c@z`d;+Uu(s<4vM[L 34 60",
 "Wizard-toad=J,D,R,ipzy,castle,amphibians,magic=Magic Spell,croak
  [qi08sEwaRjRd6D0<s+4 87 80/3_xVJnXLMP>eWf|R@N?o",
 "Zebra=D,zebra,savanna,T=horse gallop
  %-Z$&MP(>l4%m&m&YG8c 97 56/h(pGqCiom':xUJ-1KUlg 96 56",
 "Block-A=B,O=meow
  Block-a f_On2Nn.TzU(s(!$F4c! 28 38",
 "Block-B=B,O=meow
  Block-b )Zy@SFI09Wq%GhV;)!&; 29 42",
 "Block-C=B,O=meow
  Block-c 4Ns_9$1%&DjUy@MJG0(o 35 43",
 "Block-D=B,O=meow
  Block-d *5LR&9LaFBH)@RRm'|?a 31 41",
 "Block-E=B,O=meow
  Block-e +Lw29k!?oX^^sWCPltI| 25 39",
 "Block-F=B,O=meow
  Block-f `+X%RHV^tr`xg!OO[<|) 23 40",
 "Block-G=B,O=meow
  Block-g MJzK4f2DWek|>&8R&DZJ 28 39",
 "Block-H=B,O=meow
  Block-h Ko_4l(k+WGSHC6gMUyI4 27 38",
 "Block-I=B,O=meow
  Block-i iT<rJSi-Fh<]e3Aj)P]V 19 39",
 "Block-J=B,O=meow
  Block-j Gnlve%+1'(l+T^C8oG|` 25 41",
 "Block-K=B,O=meow
  Block-k `<C[FD-zaV|5[[67ZU?i 24 40",
 "Block-L=B,O=meow
  Block-l :Ne4F@l1Do@4W_rxQqQ? 26 40",
 "Block-M=B,O=meow
  Block-m @Rse-q*t3NJ^wP-h?lAf 35 37",
 "Block-N=B,O=meow
  Block-n O7m&pR'e1h4oBut;8wEE 28 37",
 "Block-O=B,O=meow
  Block-o I_7V|*Pw9q-`b@$<UVCO 32 40",
 "Block-P=B,O=meow
  Block-p %NdnZmE`Ez.a.]`VVS5p 18 33",
 "Block-Q=B,O=meow
  Block-q ?;0D0'3s?dt^82F?]kYb 26 33",
 "Block-R=B,O=meow
  Block-r NbJ9_ysOYingWTl3dD@8 22 33",
 "Block-S=B,O=meow
  Block-s GD-dQCyB;PEJF0R`3CDq 13 30",
 "Block-T=B,O=meow
  Block-t @LTL1$Q$6W>kgsfRG%?> 25 33",
 "Block-U=B,O=meow
  Block-u ][z%J)V3K7ieTuSA(Y5$ 28 41",
 "Block-V=B,O=meow
  Block-v vhk:eT1MTcUP%%+r<tC0 35 41",
 "Block-W=B,O=meow
  Block-w -S2Bo^S<bQ4oh*d'(dJ$ 47 39",
 "Block-X=B,O=meow
  Block-x Q`s|Q4I@foUS0|EaOMd3 25 32",
 "Block-Y=B,O=meow
  Block-y bY!+u+Px9*kJ3cXe3Gf[ 26 33",
 "Block-Z=B,O=meow
  Block-z ZQ:X!M_<GX88j5[fe5J1 24 38",
 "Glow-0=numbers,digits
  ^ >?z*PurK<rg+&g2+Xs52 29 39",
 "Glow-1=numbers,digits
  ^ OJw_`zGW!5Xwmw3aQ@!K 24 39",
 "Glow-2=numbers,digits
  ^ dk@s!y.w<l1CDBC-Cprt 28 41",
 "Glow-3=numbers,digits
  ^ :WUkZEQeP52kxmZ1a*;a 33 42",
 "Glow-4=numbers,digits
  ^ VZ4VWAi7O7PbkfHer<6e 31 38",
 "Glow-5=numbers,digits
  ^ RcjsTfUm2z`-w_zLaMy` 30 38",
 "Glow-6=numbers,digits
  ^ G^_Fv;:juQ@[(ii3Gpe$ 30 37",
 "Glow-7=numbers,digits
  ^ zFfYOMK*V%PIl8Il4!iF 31 42",
 "Glow-8=numbers,digits
  ^ :$ZpZkg8@RII5kY(;]n2 31 37",
 "Glow-9=numbers,digits
  ^ %Hcn$_((S9eCmw91$HtD 28 36",
 "Glow-A=B,O
  ^ jgT0;z%<D|+_2i[C.Yog 36 37",
 "Glow-B=B,O
  ^ QPt>nGSO+h.Hk)|Fz:!8 32 35",
 "Glow-C=B,O
  ^ 8fiaVJ35!g<aGyp%h;6E 27 35",
 "Glow-D=B,O
  ^ P|iMig2pGpb8K+b353`Q 33 35",
 "Glow-E=B,O
  ^ F@s)15unPY<%d)S4+cCt 34 38",
 "Glow-F=B,O
  ^ ?&N`B:l0)'p8aZje*8)' 35 41",
 "Glow-G=B,O
  ^ :3Tf1pxkqbnY!CM&OkS@ 32 39",
 "Glow-H=B,O
  ^ _ANfK@nT]S:dCZIb<@Xd 35 46",
 "Glow-I=B,O
  ^ K*OF-((MS1'fvxD;BZ'y 21 38",
 "Glow-J=B,O
  ^ @Oy90P+z$Owbq7<sm^6D 29 39",
 "Glow-K=B,O
  ^ dt&Y%P$u8p1yH|ADoe+i 38 36",
 "Glow-L=B,O
  ^ aC.@Zv-!:GyS_:3wu'HY 33 35",
 "Glow-M=B,O
  ^ x?P|qq+dGzsH>.)*O)JC 42 39",
 "Glow-N=B,O
  ^ _1zRoeoazp$*Pmr*tL); 37 39",
 "Glow-O=B,O
  ^ >?z*PurK<rg+&g2+Xs52 29 39",
 "Glow-P=B,O
  ^ ZtsVd4O%FWQe[COqq*U; 32 39",
 "Glow-Q=B,O
  ^ cYx|gyKQjGHl45!5LjYu 33 43",
 "Glow-R=B,O
  ^ WN+4bgvWi)eP^slkt|il 35 38",
 "Glow-S=B,O
  ^ AT@GDgfUvE&Wz97O_3%^ 27 40",
 "Glow-T=B,O
  ^ _NKGya3'wXvaQ7+mki+O 35 38",
 "Glow-U=B,O
  ^ |z['`:$676bCQ&4o+KV? 37 37",
 "Glow-V=B,O
  ^ ZtsTjoGz!^yVi]7jxj+p 35 42",
 "Glow-W=B,O
  ^ .DqG4j_<yy<I*2]4PI?3 45 41",
 "Glow-X=B,O
  ^ $A<jlzL>Mk;fER;1X]30 40 39",
 "Glow-Y=B,O
  ^ 95'`]uOe8pOu)9VhuQF% 38 41",
 "Glow-Z=B,O
  ^ .9BaiM7)DR$A3yn7E'qI 30 39",
 "Story-A=B,O
  story-A-1 6mvi*:%oJj)b5P&l.i)4 23 26/D[[gS73:aRa_W-N]@k8x/2QMBpD^R]GD]n*:24fm_ 22 24",
 "Story-B=B,O
  story-B-1 Oe[3'3M4W(<iuL!N-`(U 20 25/<hO|wfei*6Vt(J:0P<!( 19 25/+%sO6h*We&9>(bc+4e1X 18 23",
 "Story-C=B,O
  story-C-1 <LLrk'vz839*6>_U^KWj 22 26/i!!'&9DbW^rBHA:vSdnD/@Elp+b:0J[Z4!JgTZh<F 20 24",
 "Story-D=B,O
  story-D-1 &P!gRn)[@KEkzK^$a9aR 25 26/U%)O;_-|rku%`4u^XgpG/aOeC[?[pc:'h_bLXgw5. 22 23",
 "Story-E=B,O
  story-E-1 .ulf;|&H?XVc0yABv!ii 20 25/SZ2q.]+f@z|z(iY(Ei|+/7mTm)!o$-<*%0X`2L^no 18 23",
 "Story-F=B,O
  story-F-1 G93QYWy&M44sii]!^|Gz 18 26/6W5D.L?K+nqAuV^;Wt<J 18 25/_&`E8jW(Xat@tTDHBli: 16 23",
 "Story-G=B,O
  story-G-1 GdAAEIGE2hR`G_;!n)?- 23 25/>;C<Ia*<UqCv0RoXf`y</JlfOKn?D$fI6_nGoir42 21 24",
 "Story-H=B,O
  story-H-1 fSl]e$p'qfnf-5Xt1RAk 24 25/A`wQMU336f*_$J$FoN'D/MdLGhKJFRg3qPbzBfL?( 22 24",
 "Story-I=B,O
  story-I-1 -i9F:i9C>XOtmuTQ^>Z$ 9 26/)*vfmqR|nt&_!0hS)DcZ/NZ(Zk9%;E>i;Ya)pD1e& 7 23",
 "Story-J=B,O
  story-J-1 x^TU%X]6&A3oX|^v0'.2 14 25/ERz[%O4Wi[@FWZ*PsU<5/_:1Ws*n1nko*cdA*IW_i 12 24",
 "Story-K=B,O
  story-K-1 $]5BKc:-d$dR%?'eO'k: 24 26/f'Olb?R^-2+;5I+O>Gaf/'t'!FmEJcGa<sb_2<4gY 21 24",
 "Story-L=B,O
  story-L-1 Kr6|n`ZUfYkTI7_w88Zy 19 26/%ST1'Ye[*b;qZKV':JrU/el!q.8!qZXQdy&!6Yg[c 17 23",
 "Story-M=B,O
  story-M-1 NH]IE6s_5B2e5sbkGn`2 30 25/4KLF$GZZL|%6Ht>7Wm72/>34r8J>Eoxs0so7?^f[c 27 24",
 "Story-N=B,O
  story-N-1 Ygevkb[D*+X<pQ&8n!?W 26 25/FNt44B-?*B-81gF3wIXO/3qLG|9NE1[AjDri@QtMK 24 23",
 "Story-O=B,O
  story-O-1 3k8y[*$TT9h>2Y8^c%`7 25 25/$Grd&srei?Ec:ej:yMYu 24 25/4^DP$>f;m51?7`'WTM[. 22 24",
 "Story-P=B,O
  story-P-1 (XTxrYGAsfH2&8d.j5^H 20 25/10w:D]-+N9;YkK:?_G.(/Na2rlI:CXvoeB%4ob9Gv 17 24",
 "Story-Q=B,O
  story-Q-1 GYd.cp%Z?ng3X2pNkBT' 25 30/flYDYTGbrw^!jz&3Rbda/!JKhZ_kza!A):P73uq]N 22 29",
 "Story-R=B,O
  story-R-1 8&YjZti06O-MP^tkb|SY 22 26/2PcxtCr8yPNMUuQ<.W`M/;i@%zL^4V$+:]xzpFL%@ 20 23",
 "Story-S=B,O
  story-S-1 5n2Xi?hM$Ilghyl$2r&s 16 25/;6X?rFW*8p)zWmfHgrAZ/jdi&cVd[]7`Mq1q2rFha 14 23",
 "Story-T=B,O
  story-T-1 !wMt)..+56G0Z6HXB>-C 22 27/V(Eb<cM-.L-GdDq?sZz(/>pP?|WFJP6:)'pLJKF_a 20 24",
 "Story-U=B,O
  story-U-1 ]O:asZm>_g;gyt!^-uz& 24 26/8jDJ%L1G-[o?7VAomAX!/ho&GSsfyNiTuht^E.li7 21 24",
 "Story-V=B,O
  story-V-1 g[D7+F1&K.VcZKnzUSQp 25 25/4^D>+DzMRX7@Rv)dCbf8/_;C;K7XRrfsVKhB59dw3 22 23",
 "Story-W=B,O
  story-W-1 1_tSdl$CbhZ[|$ae^[k. 37 25/gQi7k3T;M|Slz>X?)]?d/9&KS4RGQnO$+4-e'?yO( 34 24",
 "Story-X=B,O
  story-X-1 `iH-UYmfjHM+NKQ<K??J 22 26/[sW[TwjG`St?;L_Rq]:^/vAL%PpRPS;BkJ18NM[sq 20 24",
 "Story-Y=B,O
  story-Y-1 :uv9+&ZNhzB)Lx|B9WXa 22 27/w[Yb)&op!mj9S)1QR5?k/_rG$bmX(y)E22w2f`a5c 20 24",
 "Story-Z=B,O
  story-Z-1 0;%8rix16qOp<)Hh4YqY 19 26/+Eves4vPyHaeYyGHTvgn/>hAK8]8MR5ZB29s9>PTG 17 23"]

end Catalog

end BlockScript
