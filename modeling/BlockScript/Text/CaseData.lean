/-!
# Case mappings from U+0080 up

Each entry maps a code point, or a run of code points in steps of one or two, to its image, after `>`,
or to the code point that is so much further, after `+`; an image of several code points is written
with dots. The sigma, whose small form depends on its place in the word, is not in the table. Most
capitals are found from their small letters.
-/

namespace BlockScript.Text.CaseData

/-- Small letters. -/
def lower : String :=
  "C0-16+20 2-6+20 22-2E/2+1 2>69.307 2-4/2+1 3-E/2+1 3-2C/2+1 2>FF 1-4/2+1 4+D2 1-2/2+1 2+CE 1+1
   2-1+CD 1+1 3+4F 1+CA 1+CB 1+1 2+CD 1+CF 2+D3 1+D1 1+1 4+D3 1+D5 2+D6 1-4/2+1 2+DA 1+1 2+DA 3+1
   2+DA 1+1 2-1+D9 1-2/2+1 2+DB 1+1 4+1 8+2 1+1 2+2 1+1 2+2 1-10/2+1 3-10/2+1 3+2 1-2/2+1 2>195
   1>1BF 1-26/2+1 2>19E 2-10/2+1 8+2A2B 1+1 2>19A 1+2A28 3+1 2>180 1+45 1+47 1-8/2+1 122-2/2+1 4+1
   9+74 7+26 2-2+25 2+40 2-1+3F 2-10+20 3-7+20 24+8 9-16/2+1 6>3B8 3+1 2>3F2 1+1 3-2>37B 1-F+50
   1-1F+20 31-20/2+1 A-34/2+1 2+F 1-C/2+1 3-5E/2+1 3-25+30 B4A-25+1C60 2+1C60 6+1C60 2D3-4F+97D0
   1-5+8 89B-2A>10D0 3-2>10FD 141-94/2+1 A>DF 2-5E/2+1 A-7>1F00 9-5>1F10 B-7>1F20 9-7>1F30 9-5>1F40
   C-6/2>1F51 9-7>1F60 19-7>1F80 9-7>1F90 9-7>1FA0 9-1>1FB0 1-1>1F70 1>1FB3 C-3>1F72 1>1FC3 C-1>1FD0
   1-1>1F76 D-1>1FE0 1-1>1F7A 1>1FE5 C-1>1F78 1-1>1F7C 1>1FF3 12A>3C9 4>6B 1>E5 7+1C 2E-F+10 14+1
   333-19+1A 731-2F+30 31+1 2>26B 1>1D7D 1>27D 3-4/2+1 2>251 1>271 1>250 1>252 2+1 3+1 9-1>23F
   1-62/2+1 9-2/2+1 5+1 794E-2C/2+1 14-1A/2+1 88-C/2+1 4-3C/2+1 B-2/2+1 2>1D79 1-8/2+1 5+1 2>265
   3-2/2+1 4-12/2+1 2>266 1>25C 1>261 1>26C 1>26A 2>29E 1>287 1>29D 1+3A0 1-E/2+1 2>A794 1>282
   1>1D8E 1-2/2+1 7+1 6-2/2+1 1D+1 572C-19+20 4C6-27+28 89-23+28 9D-A+27 2-E+27 2-6+27 2-1+27
   6EB-32+40 BEE-1F+20 5581-1F+20 7AA1-21+22"

/-- Capital letters. -/
def upper : String :=
  "B5+2E7 2A>53.53 52>49 18>2BC.4E 36>53 46>1C4 3>1C7 3>1CA 25>4A.30C 2>1F1 153+54 4B>399.308.301
   20>3A5.308.301 12>3A3 1>3A3 D>392 1>398 4>3A6 1>3A0 1A>39A 1>3A1 4>395 192>535.552 16F9>412 1>414
   1>41E 1-1>421 1>422 1>42A 1>462 1+89C2 20E>48.331 1>54.308 1>57.30A 1>59.30A 1>41.2BE 1>1E60
   B5>3A5.313 2>3A5.313.300 2>3A5.313.301 2>3A5.313.342 2A-7>1F08.399 1-7>1F08.399 1-7>1F28.399
   1-7>1F28.399 1-7>1F68.399 1-7>1F68.399 3>1FBA.399 1>391.399 1>386.399 2>391.342 1>391.342.399
   5>391.399 2>399 4>1FCA.399 1>397.399 1>389.399 2>397.342 1>397.342.399 5>397.399 6>399.308.300
   1>399.308.301 3>399.342 1>399.308.342 B>3A5.308.300 1>3A5.308.301 1>3A1.313 2>3A5.342
   1>3A5.308.342 B>1FFA.399 1>3A9.399 1>38F.399 2>3A9.342 1>3A9.342.399 5>3A9.399 DB04>46.46 1>46.49
   1>46.4C 1>46.46.49 1>46.46.4C 1>53.54 1>53.54 D>544.546 1>544.535 1>544.53B 1>54E.546 1>544.53D"

end BlockScript.Text.CaseData
