import BlockScript.Catalog.Record

/-!
# Published sounds

All published sounds that belong to no sprite. Most sounds of published sprites are among them.
-/

namespace BlockScript

def Catalog.publishedSounds : List TuneRecord := List.map .of [
 "A Bass=Y%nl&vuH2|%`fH4>w&Y1 56320 *",
 "A Elec Bass=<w!vlryt&(e|zy1c^zl` 11840 *",
 "A Elec Guitar=itW.L<)qO1PgtwHy*`vx 88200 *",
 "A Elec Piano=$cRFBUShR>DiC4)i<|7- 88200 Q,note,piano,keyboard",
 "A Guitar=fLCoEv&dG&)5m2&z&9P@ 63744 *",
 "A Minor Ukulele=?i!F|y.X|Wzufg@0rWBD 36534 Q,N,notes,chords",
 "A Piano=w(8;kgqN6j(dgN]kl?nC 88200 *",
 "A Sax=465p1PD)eqN20mkNFevX 12944 *",
 "A Trombone=Hx'c8EHedanj&Z]T?2Y3 17273~ *",
 "A Trumpet=^H^z%1he2W')w]1').'C 27822 *",
 "Afro String=0:wIX)QV'<s^M@d-Rv)l 39228",
 "Alert=haaIi4SQ'3<jDc;K|gBN 22353~ H,I,K,U",
 "Alien Creak1=v!nY9ZUBOokX5)s$^WQ% 32180 H,U",
 "Alien Creak2=*mZc$mL:)`cJDOIKdRAA 33200 H,U",
 "B Bass=c2BEa:bfmpIIWIsu`_WI 51584 *",
 "B Elec Bass=;5Y)bR.%MMqfEi(B!zeg 12416 *",
 "B Elec Guitar=FkXrEND7QSHwWBSZ$Ph) 88200 *",
 "B Elec Piano=N|TH1w`HLHO>R+!0CKwL 88200 Q,note,piano,keyboard",
 "B Guitar=-KU+Xi3m<i<F?[:Wb1yn 59008 *",
 "B Piano=H2fQe_EM(?qn]JyosNCK 88200 *",
 "B Sax=>LT[xyTeu7u`g91evnI& 19110 *",
 "B Trombone=Gt&tTeyY147uDB)$7D`a 31044 *",
 "B Trumpet=|+H[G:[LIM&[0UpeZ!VA 29408 *",
 "Baa=|!6kzfh>Zchum9wY;xu< 42673~ D,sheep",
 "Bark=|o;+(ZvQG-1|:BcW1l8I 6336",
 "Basketball Bounce='``on@UN:lLx^AF3%8i) 8129~ V,H",
 "Bass Beatbox=x[.7Bm*Eb@%Y^!sNkhZX 13440",
 "Beat Box1=>d1Ol:eyF5Y_GLr$s0iO 22916 Q,L,voice,hiphop",
 "Beat Box2=WxY@JR`h_xSlY^'*H4fj 22916 Q,L,voice,hiphop",
 "Bell Cymbal=fo<1?pSavL_EmR)dFj+T 38656",
 "Bell Toll=xwKvSjzy:`V07J;eWhef 180672 H,dramatic",
 "Big Boing=!5du>U6kr;frJd;s!L2j 18289~ Z,H,F",
 "Bird=(2tQ4LlN+X:[`%`m0yF@ 15360",
 "Birthday=I%|B;fH&&||T)h$Zp3'* 322816",
 "Bite=!&P+k9Bg.v`e@h$oZMui 8129~ Z,H,L",
 "Boing=9AB%zkU|9frRCm9Q|+:E 7113~ H",
 "Bonk=aSy'U_*)bW-4m|5&l_0P 14225~ Z,H,F",
 "Boom Cloud=zf.851a?aq6_|Cz!mi|L 88393~ H,K,U,dramatic",
 "Boop Bing Bop=>mkc68.c_T6hALvoEq&` 55881~ Z,H,F",
 "Bossa Nova=vBp&uWts5O5dua@QRMar 137161~ P,Q,latin",
 "Bowling Strike=yiHHVC8Ocza)Wq0n]DYe 27433~ V,H",
 "Bubbles=D0DzohV'^I+5de&Imns; 180224",
 "Buzz Whir=_'dKf.FU:@Ng9(14:tGs 36148",
 "C Bass=YpuBh?'SYoo2HU9<CDi1 89216 *",
 "C Elec Bass=?kb1Y`NpCVuMe.1;RHjG 10432 *",
 "C Elec Guitar=$i-Ha;[xm.BK9_BgGy-H 88200 *",
 "C Elec Piano=G:g+FO%-Es0^?F5kO[|p 88200 Q,note,piano,keyboard",
 "C Guitar=++KPVSN|G+-6]vT0+_fc 89728 *",
 "C Major Ukulele=RTLxD2hLhjHmYZiurBbV 36406 Q,N,notes,chords",
 "C Piano=^?Q9pV`]1SEc;rY1XtXS 88200 *",
 "C Sax=7K0rnvw%<^J_m^*|`|.v 18982 *",
 "C Trombone=Fo]JDK*)Cy9Ma2`[MJD@ 38106 *",
 "C Trumpet=I&Epa!Lw:>ry_m1@oCzk 26236 *",
 "C2 Bass=>kGEX'dWX*viY.|ihO5m 48256 *",
 "C2 Elec Bass=:?<1Rd7r]9]WKZ5PUuNM 11584 *",
 "C2 Elec Guitar=2&oGg0Vi*2f^6qi8|Thw 88200 *",
 "C2 Elec Piano=0jJYv307_IYDc'c3b<sO 88200 Q,note,piano,keyboard",
 "C2 Guitar=[Nl^T;]UmWG1|vOXG1U2 55424",
 "C2 Piano=C>jP>rLxrV!AJNx-y8rs 88200 *",
 "C2 Sax=e@UZO-b5E2J6O)G?&T7: 8129~ *",
 "C2 Trombone=?LcHyMT_vhY`6PD>S6VH 27808 *",
 "C2 Trumpet=bv0q>LNR8jPJ_N3f6hey 31698 *",
 "Car Horn=E:VT[1_u-<iLP&(FmfW3 42673~ H,X",
 "Car Passing=YRC$sKvo!-N^7*?oNEeM 339968 X,ambience,E",
 "Car Vroom=eG7EO$4+XU`P-Y7gB;FY 43689~ V,X",
 "Cave=HZa]L6oVVHHpV|]8X3b2 163577~ Q,P",
 "Chatter=jmV+lTsK]?MLB$>kg5Tl 26417~ D,squirrel,chipmunk",
 "Chee Chee=x&F$9[VjpJoj'R&q6$Y. 69120 D,monkey",
 "Cheer='^5MI(9Hk5;.iEyl>QD^ 109729~ V,L,voice",
 "Chill=ZC$a9GTS8|Q.XTB.ucg- 352800 P,Q,I,chill",
 "Chirp=2>Ie9E>tya`s!gT-S:R1 6097~ D,bird",
 "Chomp=$5IB0XTPsc`K(%f|rB!( 11648 H,L",
 "Chord=F;B6sBbk?I`fVIVueA1i 82432 Q,I",
 "Clang=3qfJLDX@*K&@Hq?t`)E? 27433~ H,K",
 "Clap Beatbox=S'4T0.1x4UX!cZ6l%|%> 8448",
 "Clapping=?CTaeM*_P.][[KkhrqON 168320 L",
 "Classical Piano=>8HSQP+.Ol4_htft`Zym 305748 P,Q,classical,bach",
 "Clock Ticking=QG2M+n`-u;*H+m2z1l() 109729~ H,home",
 "Clown Honk=enF-A0)eIRh8Y0kQErxV 9145~ Z,horn",
 "Coin=*0Z-E%xZ_ovrt:w+Z$De 4065~ H,I,K",
 "Collect=yY`N3(nKqaPb-[K8UL1M 14225~ H,I,K",
 "Computer Beep=xlC@CYq;dAkHX@yFgqLK 38144",
 "Computer Beep2=)WFt7Mn`9|ap<5Xn&@G' 76800 H,I",
 "Connect=N(K;0jZq2c&Jc[8Cehe[ 23369~ H,I,K",
 "Cough1=MR%giGZ5[<]^80-uB&oT 30064 L",
 "Cough2=5Oel$tFt^F8H2hjCe4|Q 33224 L",
 "Crank=Q0urJw;j]HO5S>-q+PP- 100585~ H",
 "Crash Beatbox=Bza@3*;pl<1(Eiar.%wb 53766",
 "Crash Cymbal=gb1-CH^m751R3<65d)VA 50440",
 "Crazy Laugh=+'^p'Ih-zEMtlPuh)u-Z 37593~ L,F,voice",
 "Cricket=PE@?E!Ca7);L-FFaWb|n 7346 D,insects,bugs",
 "Crickets=|->3>^Vs(M7Fr%Nu<t|V 184320 D,insects,bugs,ambience,E",
 "Croak=Zqm|$cREd%0!yxE(aoBt 7113~ D,frog,toad",
 "Crowd Gasp=%8jj)*g+rN.:y(u?xoX5 27433~ voice,L",
 "Crowd Laugh=h:&l+N><X)w+[0@z&6-y 92457~ voice,L",
 "Crunch=|)rmmG|9rT7f:s-oDFU@ 5081~ H,I,K",
 "Cymbal=E5Om'f)x+<7N>(g_ay1J 24385~ Q,S,I",
 "Cymbal Crash=io]Nq5?:hPrInW[ndFps 50438 Q,S",
 "Cymbal Echo=WOnXn>Iiu+:W;L)FDfGq 88652 Q,P,hiphop",
 "D Bass=;:[)vCv(@!x6-vy:OvwG 80384 *",
 "D Elec Bass=?35(;X.X[(`l.ze2yW<P 11136 *",
 "D Elec Guitar=(t(-CsdiqecKusqzt@4' 88200 *",
 "D Elec Piano=G:&Ja070KGtmDjC<ud&+ 88200 Q,note,piano,keyboard",
 "D Guitar=.z8r(U!.MauhxisC|MQU 82240 *",
 "D Piano=8ZD02kwH&Iwbusg^s1G. 88200 *",
 "D Sax=1lqNq@Yh(XXNVB10^LD: 19110 *",
 "D Trombone=hws$[c-^R`rJ.wd>)XUa 34678 *",
 "D Trumpet=$4DRdd&;:J&!MaTkz^mc 25404 *",
 "Dance Around=Ia(0nQW$R>fdS@A?$?ao 343409~ Q,I,P",
 "Dance Celebrate=%zxV[k1sy(6BQfD410[f 176785~ Q,P,I",
 "Dance Chill Out=TqUb.$+F6rAs>lH'`4-+ 223521~ Q,I,P",
 "Dance Energetic=bmXbw6?<I!Z?9PbC?Wa` 352800 P,Q,I,EDM",
 "Dance Funky=R$'Lxs)h&N`0P+Gx:Y*w 111761~ Q,I,P",
 "Dance Head Nod=>]%Ev$CWBr756Aqzg%T1 124969~ Q,I,P",
 "Dance Magic=v2KW3unCjX:oZzO3f>]L 187961~ Q,I,P",
 "Dance Sitar=ZBnepTA(.A!(wi2m*16` 110745~ P,Q,india,tabla",
 "Dance Slow Mo=ya6siWhQzE*pU&Zum!uq 446025~ Q,I,P",
 "Dance Snare Beat=:*Kh<h>'UEq8Y.UC1mSP 176785~ Q,I,P",
 "Dance Space=b[!WmL@u3H@AF`2DP:k) 88393~ Q,I,P",
 "Disconnect=:<GnW3?U1B4&(tA+N9l3 28449~ H,I,K",
 "Dog1=T|E3__Q3tPIu_l1GeiG7 7344 D",
 "Dog2=|o;+(ZvQG-1|:BcW1l8I 6336 D",
 "Door Closing=`17s0q9Hw<M!B2e$-]7d 8129~ H,home",
 "Door Creak=:5URV!$Q84o>wvqNSdfs 217088 H,home",
 "Doorbell=V1[>?TU_GWxd.tQytbo< 109729~ H,home",
 "Drip Drop=yYwYwTZlZu`YUqk:.$)| 62993~ Q,I,P",
 "Drive Around=P]$Lg[H0rwimm)YrW2Ky 88192 Q,P,I",
 "Drum=i%^7p&'+S._joyh;N0RB 107697~ Q,S,P,hiphop,jazz",
 "Drum Bass1=6$kV>_)7wZpi5<$$k!84 13056",
 "Drum Bass2=AsB*@9Ad@o@U_d)rOT:_ 4065~",
 "Drum Bass3=YR'RLfS&TFzykZnvBZaZ 17152",
 "Drum Boing=<b7VKk??quc?&v$MA48R 19305~ H,Z,F,S",
 "Drum Buzz=0gf;%YFUfk?90DJ:Jgn2 22968 Q,I,S",
 "Drum Funky=j7Ky<BISpHJIFO%jL$B4 44705~ Q,P,hiphop",
 "Drum Jam=IU7GV?mw^G.0<`e;7a** 88576 Q,P,S",
 "Drum Machine=ig6]*NNWPASBX2X_1:y% 106681~ Q,I,P",
 "Drum Roll=j0um]Zge7]&9TO4LFBoo 38609~ Z,S",
 "Drum Satellite=w2DZ0xL2n5YUBN.AJ>R^ 88192 Q,P,S",
 "Drum Set1=1L:%6R]`;!V0Egwle|u4 46737~ Q,S,jazz,P",
 "Drum Set2=B[3@Sq;ibL@BqK&-pPM$ 37593~ Q,S,jazz,P",
 "Dubstep=K)<?F0h8(2He?80qY22[ 151385~ P,Q,I,EDM",
 "Duck=T*l2gMF`|u;AGZDagyS$ 11584 D",
 "Dun Dun Dunnn=evPjv2lc|^4DMbpY^|%n 64009~ H,surprise,Z,dramatic",
 "E Bass=viyUd`jpWRp`rU'ln7Mw 72320 *",
 "E Elec Bass=w$mKkmN6gqsv5(<wY](3 11382 *",
 "E Elec Guitar=.N&eue?:3smjyfpZq)24 88200 *",
 "E Elec Piano=RncKjFT<D880PaMClHRp 88200 Q,note,piano,keyboard",
 "E Guitar=6sz)koHZ&fq]NynXqF4o 76800 *",
 "E Piano=[<pCv^ltPvZH'9I^i5mG 88200 *",
 "E Sax=0Q>JU?8hiGWwL2rS!wz' 14978 *",
 "E Trombone=[C4%asiXpkQj^4l4mkFJ 33398 *",
 "E Trumpet=6?2Wn$xU47cNkjs9eZrQ 9145~ *",
 "Eggs=>UfA4*m(eESn8CyPHcZi 336297~ Q,P",
 "Elec Piano A Minor=Jq:diIf@CnY&fbeLSRp@ 88200 Q,notes,N",
 "Elec Piano C Major=+&4J6hUl]'ybS[*7SIVV 88200 Q,notes,N",
 "Elec Piano F Major=Bf6dyP0:eazmto$k`zdW 88200 Q,notes,N",
 "Elec Piano G Major=;>3waZQ3Ku1v^Q74hr6J 87816 Q,notes,N",
 "Elec Piano Loop=DpVv38eVOVv'`!t:L!]l 87688 Q,notes,N,P",
 "Emotional Piano=ZR6AB*_jg0:zG+UN@62N 330180 P,Q,chill,calm",
 "Engine=hWPb3K^;;woVS|[lH0je 172721~ H,X",
 "F Bass=e63QMa(@tWp9%u8036ic 68736 *",
 "F Elec Bass=5AbNm8odwO8U&+XHP(`W 10624 *",
 "F Elec Guitar=<Tx6ell6rzWVY)*uu@i5 88200 *",
 "F Elec Piano=a50a67q><8SHu^*|d'@[ 88200 Q,note,piano,keyboard",
 "F Guitar=UdOiq(QR|LrEZ0H9rYOG 72832 *",
 "F Major Ukulele=|bF@d83Rl|n:A0'TCAk& 36470 Q,N,notes,chords",
 "F Piano=|qtvbvUZqG%;2(3';6[x 88200 *",
 "F Sax=-KV^Jg;yM&ma;NYNnKe7 8129~ *",
 "F Trombone=_Lbn]'ZSPNA1uAj>E_0% 38746 *",
 "F Trumpet=<kXGveYOnMN0Wsuk>%LA 25532 *",
 "Fairydust=Vt9s_T)B5$uWXp&s'-nf 22494",
 "Finger Snap=Mh+++HXLjF2V`r6O>]PQ 7940 H,S,L",
 "Flam Snare=2<C[g[|A%v$Lf*::A&Zr 8832",
 "Footsteps=[Heg@;NWJw)BE-;>]b]P 235520 H,L",
 "G Bass=vZUrdR$mWy::uef_E&MN 61952 *",
 "G Elec Bass=M3S^0iLzT9w6B(@P3RW5 11136 *",
 "G Elec Guitar=|bYZR`@+ePp_.6hcJF4' 88200 *",
 "G Elec Piano=1]:wLc|EeE_X6EUI6`eB 88200 Q,note,piano,keyboard",
 "G Guitar=MKI+JsW7f+g>8WgkL0|r 67200 *",
 "G Piano=4GF-%p'0O:a<IQ5hI-*0 88200 *",
 "G Sax=]zNWiq<PMNB%9yE$3io8 8129~ *",
 "G Trombone=L2C;v0u+?U`iULNY'>'f 34358 *",
 "G Trumpet=d]X`)(5Qvt+rpOB'!73N 29280 *",
 "G Ukulele=^3Jts[yS>$zW1VR<)NUS 36470 Q,N,notes,chords",
 "Gallop=G>)DQRPV@wWCNhVIo[T4 36577~ D,horse",
 "Garden=E1(t6jQ`C_1i17dt_|Db 371857~ Q,P",
 "Glass Breaking=6o<s>DbDHm;q>HE^ZekO 52833~ H",
 "Glug=:'K*GR1!fSt_u<LiEVT] 12193~ H,potion,drink,water",
 "Goal Cheer=PjPDktX<?8vQ|3SJpw$K 84329~ V,L,voice",
 "Gong=Nfdogu5kP&xeHV(ZGWTX 457728 Q,S",
 "Goose='SrwE_s4))AfV8k9;%Xt 16416 D,birds",
 "Growl=DL64?hbdpzDYA0Q7TFe[ 19305~ D,dog",
 "Grunt=|&UIE>':5^zVS6?`9Afl 21337~ D,buffalo",
 "Guitar Chords1=-PtlV7YR`dKWHLC9gEt( 123953~ Q,N,P",
 "Guitar Chords2=evSy$0[r'`1M29_S`9tN 159513~ Q,N,P",
 "Guitar Strum=xql?2J'z9N(w;e1oF0D& 100864 Q,N,chords",
 "Hand Clap=LF&)W<FKyyG]uo:|[F7^ 4928 L,S",
 "Head Shake=ckldX|NeDbgX62P5V%va 20321~ H,Z,F",
 "Hey=epMQ]wV.aN8wie<nNbXP 6097~ L,voice",
 "Hi Beatbox=;5]:](4xrWYN<AhMs)1< 11712",
 "Hi Na Tabla=0XX9j3cDDpf;tWM2&vTC 8192 drums,M,S",
 "Hi Tun Tabla=`ZYi)-Oi!'3<N_`zQnO7 37312 drums,M,S",
 "High Conga='F&g|H[a1`Rzw@iBvxn. 16384 drums,M,S",
 "High Hat=$r2j2pD|*>DYxZVFjDN] 3049~ Q,S,drums",
 "High Tom=_Dl'&Agj.1a@|:$YwBo8 24640",
 "High Whoosh=?o$k4m`_R$)owSn$U9fg 7113~ H,K",
 "Hihat Beatbox=;5]:](4xrWYN<AhMs)1< 11712 L,S,Q,hiphop",
 "Hihat Cymbal=.+0?d]5C2L2F-PwvR1(> 5504",
 "Hip Hop=EsrI|UJ6XP)1$3n;Png| 109729~ Q,P,hiphop",
 "Horse=5CDvg^FdpunTO[b>BrWi 57856 D,H",
 "Horse Gallop=vU7Ie(]fJ&)%U+fSwwh8 153344",
 "Human Beatbox1=1;z%8!OCWGI:f;zb;nSs 103633~ L,S,Q,hiphop,P",
 "Human Beatbox2=hadZX`r<UJY8Qwv7N%nk 62993~ L,S,Q,hiphop,P",
 "Jump=AS112%HRKnVW8q_OUnp[ 7113~ H,I,K",
 "Jungle=TqKZLEwCoSDubNR;gj'l 76201~ Q,I,P",
 "Jungle Frogs=.v8Z%`U)KUn)Ttwx+TX@ 291593~ D,E,crickets,ambience",
 "Kick Back=N]`VwWxo7i|MHUYCT62: 44705~ Q,P,hiphop",
 "Kick Drum=AsB*@9Ad@o@U_d)rOT:_ 4065~ Q,S,hiphop",
 "Large Cowbell=!*S0cb8r+y[_$DjFR'GB 21337~ Q,S,drums",
 "Laser1=5KjzCJn[!C*YM+E2Rg42 2064",
 "Laser2=xJx*t?I8$YOx?'kXJy4` 3020",
 "Laugh1=)n+-M|-DUthjrbjuamPg 54188 L,voice",
 "Laugh2=IOtq8nV-_$s*lQ+YD$d7 58648 L,voice",
 "Laugh3=H;bB:GWDih&Y5rBEcxH@ 128260 L,voice",
 "Lo Geh Tabla=KQwQn2;h@?L'f41Q&DQt 61568 drums,M,S",
 "Lo Gliss Tabla=_nwleoh5'pZrtDM(Zy5g 14016 drums,M,S",
 "Lose=_`5f_H.aVj4d!)Ms^$^j 82297~ H,I,K",
 "Low Boing=0x46?'e6*v')Yr$^yu[n 17273~ H",
 "Low Conga=$z>ttJ<n)y26h>0kDt(W 16768 drums,M,S",
 "Low Squeak=$*UWJOB^jAgkxvyfL%30 17273~ H",
 "Low Tom='5Pgm'6QWP$i7S-$^pc( 40000",
 "Low Whoosh=^iBlILT2'r&++'eK'!te 12193~ H,K",
 "Machine=dS8y!|2U]DcNV(Y|V;.S 11177~ H",
 "Magic Spell=)@BCY.1<!u;L@N(j.6.^ 43689~ H,J",
 "Medieval1=Km@;z.T;<U@EQws|EoMh 213361~ Q,P,J",
 "Medieval2=E('7?(;2&DJO7WXZ1|aO 324105~ Q,P,J",
 "Meow=GCc']DHS`O!ackim56%6 37376 D,cat",
 "Meow2=]EiubkS*?9<[gG?PPAWb 26048 D,cat",
 "Moo=B55?S<xucG<WNcF<En|K 27433~ D,cow",
 "Motorcycle Passing=UWpVi06JLTzj]4(?jPbY 344064 X,ambience,E",
 "Movie 1=GaU6hj_88KckTZtYS<Jf 441000 P,Q,cinematic",
 "Movie 2=Cr1FBp@UZPfto-pTyU5] 151385~ P,Q,cinematic",
 "Muted Conga=)NcP5(<Aka8)(*e*g$t( 9088 drums,M,S",
 "Mystery=R!uzv?n;ffo)@VQ0S@HJ 94489~ P,Q,cinematic",
 "Ocean Wave=[S]nPkv^;Uqo!!CvB?Ax 99569~ H,water,Y",
 "Odesong=-mPR4:2EPuj0hObm)m3k 212345~ Q,P,I",
 "Oops=&v_ah6e(BNRwNnH^?ofb 31497~ H,I,K",
 "Orchestra Tuning=OT3;0q<-YL?swzh'%vxV 222505~ H,ambience,E,Q",
 "Owl=dh(t**5Lnv?987CffxXR 32444",
 "Party Noise=JcrcfcMGM&vzcn2uyp4< 178688 L,voice,ambience,E",
 "Pew=*eDD]>d.9YrHNcsx2axQ 6097~ H,I,K",
 "Ping Pong Hit=G9>j);8S9rRW9]DbE:Og 11177~ V",
 "Pluck=%Dd5!Jg_AnLNwFjMatr: 7113~ H,Z,F",
 "Plunge=YxXAoU!w^t+UHKGyX@GI 89600 H,water,splash",
 "Police Siren=TTsy|dqU&9]*z]%tM57[ 9145~ H",
 "Pop=GA7N2nE5uq:NcFKI$K)z 1032",
 "Rain=V!qa>OM&M$r:0Evt8zYn 220473~ ambience,E,weather,water",
 "Rattle=C(Sbmh[P(wN62u@6y0he 26368",
 "Referee Whistle=GSbsOV(]'>r0Zo|;t5%e 14225~ V",
 "Reggae=(<WcEJ(Zex`wk9sC+]Py 346046 P,Q",
 "Ricochet=6?!<tn;_|NxCPT$+j^K8 24385~ H,Z",
 "Ride Cymbal=9CV$l%SUit^QViep-4wF 32576 Q,S,drums",
 "Ring Tone=I$Fw%*_qeHx@qetR:H$i 71121~ H,home",
 "Rip=3e>9NBAa9]$a]Yt6NGbg 12193~ H,K",
 "Ripples=^_Pzn!]nve)>p]rgcjWE 86016 H,water",
 "Roll Cymbal=`|3sDy3%a;A%^8$&!R1p 52864",
 "Rooster=.I+^9:oavN`7gKOBSS!Z 68440",
 "Scrambling Feet=%RoKA*tK|8F7xH);^)'1 36577~ Z,H,F",
 "Scratch Beatbox=GpQt_FQdpKnr;Z?z7xaU 23104",
 "Scratchy Beat=xh@^n?'WAW*l`Qslu(mx 88192 Q,P,hiphop",
 "Scream1=%_gifDrU12oerbeNXj4* 26512 L,voice",
 "Scream2=bDhzB.:pfQvYeHaup44) 34020 L,voice",
 "Screech=%c-X8Ry)60XU%[gTpmk$ 13209~ D,monkey",
 "Seagulls=4GJY+;25+X:xCgkQ>N6D 65025~ D,bird",
 "Sewing Machine=E)OSq0af6)%83g<`gH$Q 108713~ H,home",
 "Shaker=BwG1WTSa_6WuaUTAARA] 74240 Q,S",
 "Ship Bell=7@DMu7Xk@2$;0522jWdV 79249~ H,X",
 "Sidestick Snare=hj;*aT7P'yc8l[644*iR 4672",
 "Singer1=KgR?my8&EZ[E*Ed?|SiQ 94612 L,voice,vocals,Q",
 "Singer2=<04k^fXDU]3J-h`8[3hl 114544 L,voice,vocals,Q",
 "Siren Whistle=e46@@<1hf&t6@:>-0LS` 21337~ Z,H",
 "Skid=-jQk3|BYOPD+&a;xjPe6 24385~ Z,F,H,X",
 "Slide Whistle=1Ex4|@IQ5vG5PFvc2-3t 13209~ Z,H,F",
 "Small Cowbell=c$djpmP8@ZL2$eGOx:l- 10161~ Q,S,drums",
 "Snap=YhQ)lGdTmf@yq]jqbH*u 30720 Q,S,drums",
 "Snare Beatbox=ZdDmi]&uN9e'Zl9jp(F. 6097~",
 "Snare Beatbox2=EtHha`uUxatbzUFd1wzd 9920",
 "Snare Drum=Y|2kW|bU[7-@@R%A5sd) 3049~ Q,S,drums",
 "Sneaker Squeak=v..+'&+OT9]xsGckreh- 9145~ V,H",
 "Sneeze1=yBBcm`Q-2s0TfiEjhl5D 47272 L,voice",
 "Sneeze2=4FmLnBun)2-?ybSrSRZ> 30436 voice,L",
 "Snoring=;P<htzhQPa%V(>'9d]jl 104649~ L,Z,voice,F",
 "Snort=0dBvgrFpKS7'ECLzD8[9 17273~ D,horse",
 "Space Ambience=iGdu*U[.^ZMU>N.l3TxR 220473~ H,K,E,U",
 "Space Flyby=6KV1;!QU%ukoiDd$'>YG 52833~ H,K,U,X",
 "Space Noise=Qz0&25oEfFBmAbdqgG8q 58929~ H,I,K,U",
 "Space Ripple=kJd!e_]iW1eMN?KtgQ0; 164596",
 "Spiral=[`Ei+jSRX?S^^s]6l'`G 114688 U,H,I",
 "Splash=@yBbGvCofHB*E)pm8mh` 46737~ V,water",
 "Splash Cymbal=Nk`hk%]42fP`tKgjSNQD 19200",
 "Spooky String=>f>dxGGqQAzf$UOw_3nK 205504 H,dramatic",
 "Squawk=bY4TJDpimSUp!3x^GL+i 16416 D,birds",
 "Squeaks=zT]pj3kMK>dCeiYc'+ll 53849~ D,guinea pig",
 "Squeaky Toy=wjH2Mv*HH6muV6G+:8WI 10161~ Z,H,F,horn",
 "Squish Pop=Gh:?Jq[NGLW]!V:bd+AB 10161~ Z,H,F",
 "String Accent=YHYXy9]$6o(GiAJHwo)) 67584 H,Q",
 "String Pluck=_IoZ;wcL-GtYhv$@WYdK 19904 H,Q,N",
 "Suction Cup=CT_d1!>p_i0&vuOEVnY5 5081~ H",
 "Suspense=&N$KoSU1NB9yze':Y75b 66636 H,Q,dramatic",
 "Tada=%pPA>Z_?YjS]j.q|&20m 55881~ H,surprise,Z,dramatic",
 "Tambura=YQGsE1H7wLUy!x$s&$F* 89044 H,Q,N",
 "Tap Conga=joZw[`(S7lh(Ru(e`z+u 13760 drums,M,S",
 "Tap Snare=_1GL$|w:[N1-ovy?<q-W 6592",
 "Techno=H?%]dek*qj%wkqVn2&h1 175769~ P,Q,I",
 "Techno2=?ZABGRs&ys-L:GQ9AX+y 327153~ P,Q,I",
 "Telephone Ring=xK+_991A'C%gg(CM.z[Y 75185~ H,home",
 "Telephone Ring2=]WXvy8j(NqHpT93?(g2K 25401~ H,home",
 "Teleport=.4L(Dh8Usq%3-mOr1.eW 110745~ H,I,K,U",
 "Teleport2=Ef^f07x;S4p@zHdVlWw' 16257~ H,I,K,U",
 "Teleport3=:p@liRq>ruY0(.wGPnaG 95505~ H,I,K,U",
 "Tennis Hit=!L)I$QdgsijP1ik|5$HU 18289~ V,H",
 "Thunder Storm=&4Q3&4pT!x@JK6qN%uA( 307849~ weather,rain,ambience,E,dramatic",
 "Tom Drum=;BJ<9<)v+@;^^:*Z$SE7 36577~ S,drums,Q",
 "Toy Honk=?3V>q>w16xv5dG-l(Ino 11177~ Z,H,X",
 "Toy Zing=9xds^?X4_OP9C]cp71Qr 14225~ H",
 "Traffic=[`$D5:i-fXGTQ`N|RElI 142241~ H,X,ambience,E",
 "Train Whistle=8S[IkDXLe[n;7o?CFZcw 47753~ H,X",
 "Trap Beat=Ijv*D73zda0XUu6?IO-. 294652 P,Q,I,EDM",
 "Triumph=w)vfHdm$m*|pUurIc:eK 89409~ P,Q,dramatic,win",
 "Tropical Birds=(6lW1&gLGXX4!N]LjO!e 546609~ D,E,ambience",
 "Trumpet1=Ge0p@@.(njHV`LXl;[u] 103200 notes,Q,N",
 "Trumpet2=aP&i6t!4m0S_docb9>(B 93696 notes,Q,N",
 "Video Game 1=jRXZ[:AEB;P.xpvz_H@s 171705~ P,Q,8bit,8-bit,I",
 "Video Game 2=xex1RU:%gl1J_1zR7vGv 150369~ P,Q,K,I",
 "Wah Beatbox=Kv4oIdOr;vuG)Ervoduy 13248",
 "Wand=^'.^lx`41m8Ej:Wilg!J 47753~ H,J",
 "Water Drop=bWt*B!1fQNZa@w0g|TLm 15241~ H",
 "Whinny=iZI|'1@9>t*`YG<ldmvc 46737~ D,horse",
 "Whistle Thump=Pe!kS:>`p!JGuZKJdyTq 15241~ Z,H,F",
 "Whiz=_h2+dEOz`GVaYy0jh6)! 19305~ Z,H,F",
 "Whoop=jAzn[@cLoNca|LBR_6t> 217600 H,I,U",
 "Win=`o7D!M+7Bz@|dHR-Ov$L 45721~ H,I,K",
 "Wobble=MUkw[]q)T4L72AusjD:c 40641~ Z,H,F",
 "Wolf Howl=<HC!Fb4)K1`sJkKMF:*x 172032",
 "Wood Tap=afGUuH^5@;5)pJX@y%P| 3049~ H",
 "Wub Beatbox=bjJ|GRwX^tG`WV>9[sIU 14784",
 "Xylo1=@+F]9)NtLTX4P3oEK-lG 238761~ Q,P",
 "Xylo2=^Yt_SC[b8mjmRqrBiG-p 246889~ Q,P",
 "Xylo3=D)U7@m*EaXjR_3(iWjW0 209297~ Q,P",
 "Xylo4=UG7dF]ZdHXTa4Mi<_p1F 77217~ Q,P",
 "Ya=yy't:T(|!tC1FmS.+![] 22764 voice,hiphop",
 "Zip=Z|_|tH&r!r?y67%pX_fX 11177~ Z,L",
 "Zoop=!QLHM:D4uS<aFMx]CxOy 11056 H,I,U"]

/-- The published sound of a name, under this name; the published one may have other capitals. -/
def SoundRecord.published (name : String) : SoundRecord :=
  match Catalog.publishedSounds.find? (·.name.toLower == name.toLower) with
  | some t => { t.sound with name }
  | none => ⟨name, "", false, 0, 0⟩

/-- A sound of a sprite: a published one by its name, or one that is written out. -/
def SoundRecord.ofEntry (entry : String) : SoundRecord :=
  match Text.splitAtChar '=' entry.toList with
  | [name, text] => .ofText (String.ofList name) (String.ofList text)
  | _ =>
    match entry with
    | "pop" => .pop
    | "meow" => .meow
    | "Magic Spell" => .magicSpell
    | _ => .published entry

/-- A sprite: a line with its name, its tags and its sounds, if it has others than most, and its
costumes on the lines below. -/
def SpriteRecord.of (entry : String) : SpriteRecord :=
  match Text.splitAtChar '\n' entry.toList with
  | [] => ⟨"", [], [], []⟩
  | head :: lines =>
    let name := String.ofList (head.takeWhile (· != '='))
    let rest := (head.dropWhile (· != '=')).drop 1
    let tags := String.ofList (rest.takeWhile (· != '='))
    let sounds := rest.dropWhile (· != '=')
    let costumes := lines.flatMap fun line => Text.splitAtChar '/' (line.dropWhile (· == ' '))
    ⟨name, Text.tags tags, CostumeRecord.all name costumes,
      if sounds.isEmpty then [.pop]
      else (Text.listed (String.ofList (sounds.drop 1))).map .ofEntry⟩

end BlockScript
