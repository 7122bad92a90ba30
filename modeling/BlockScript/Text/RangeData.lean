/-!
# Code point ranges of the character properties

The ranges from U+0080 up of the character properties that names, numerals and quoted text depend on,
each as its distance from the one before it and its length, in hexadecimal. Where a property includes
others, only the rest is listed, in ranges that may go over members of the others. The data are those
of version 14 of the Unicode character database.
-/

namespace BlockScript.Text.RangeData

def casedLetter : String :=
  "AA B 5 6-16 2-1E 2-C2 2-3 5-CF 2-23 8-1 1F-4 8C-3 3-1 4-2 2 7 2-2 2 2-13 2-52 2-8A 9-A5 2-25 A-28
   B18-25 2 6 3-2A 3-2 2A1-55 3-5 883-8 8-2A 3-2 41-BF 41-115 3-5 3-25 3-5 3-7 2-4/2 2-1E 3-34 2-6 2
   4-2 2-6 4-3 3-5 5-C 6-2 2-6 75 E 11-C 66 5 3-9 2 4-4 7-4/2 2-3 2-5 5 3-3 6-4 5 12-1F 4-1 A7C-E4
   7-3 4-1 D-25 2 6 7913-2D 13-1D 85-65 4-3 2-3A 6-1 2 2-4 1C-1 2-2 336-2A 2-C 8-4F 4F41-6 D-4
   40A-19 7-19 4A6-4F 61-23 5-23 75-A 2-E 2-6 2-1 2-A 2-E 2-6 2-1 1C4 3-2 2-29 2-8 4C6-32 E-32
   BAE-3F 5561-3F 6581-54 2-46 2-1 3 3-1 3-3 2-B 2 2-6 2-40 2-3 3-7 2-6 2-1B 2-3 2-4 2 4-6 2-153
   3-18 2-18 2-1E 2-18 2-1E 2-18 2-1E 2-18 2-1E 2-18 2-7 735-9 2-13 9E2-43"

/-- Letters without case. -/
def letter : String :=
  "1BB-104 7-B 1B 2 86 1E5 77-1A 5-3 2E-2A 24-1 2-62 2 10-1 8-1 B-2 3 11 2-1D 1E-58 C 19-20 A-1 5
   6-15 5 A 4 18-18 8-A 6-17 2-5 12-29 3B-35 4 13 8-9 10-F 5-7 3-1 3-15 2-6 2 4-3 4 11 E-1 2-2 F-1 B
   9-5 5-1 3-15 2-6 2-1 2-1 2-1 20-3 2 14-2 11-8 2-2 2-15 2-6 2-1 2-4 4 13 10-1 18 C-7 3-1 3-15 2-6
   2-1 2-4 4 1F-1 2-2 10 12 2-5 4-2 2-3 4-1 2 2-1 4-1 4-2 4-B 17 35-7 2-2 2-16 2-F 4 1B-2 3 3-1 1F
   5-7 2-2 2-16 2-9 2-4 4 20-1 2-1 10-1 12-8 2-2 2-28 3 11 6-2 9-2 19-5 6-11 4-17 2-8 2 3-6 3B-2F 2
   E-6 3B-1 2 2-4 2-17 2 2-9 2 B 3-4 2 16-3 21 40-7 2-23 1C-4 74-2A 15 11-5 5-3 4 4-1 8-2 5-C D
   6E-14C 2-3 3-6 2 2-3 3-28 2-3 3-20 2-3 3-6 2 2-3 3-E 2-38 2-3 3-42 26-F 72-26B 3-10 2-19 6-4A 4-A
   8-11 E-12 F-11 F-C 2-2 10-33 24 5 44-58 8-4 3-21 2 6-45 B-1E 32-1D 3-4 C-2B 5-19 37-16 A-34 53
   5E-2E 12-7 37-1D E-1 B-2B 1B-23 2A-2 B-23 6C-3 2-5 2-1 4 43B-3 48-8 BA8-37 8 11-16 A-6 2-6 2-6
   2-6 2-6 2-6 2-6 2-6 227-2 1A-8 8-4 3-4 5-55 7-2 2-59 2-3 6-2A 2-5D 12-1F 31-F 201-19BF 41-568C
   44-2D 3-10C 4-F B-1 43 11 21-4F 28-8 69 7 63-F 2-2 2-3 2-16 1E-33 F-31 3F-5 4 2-1 C-1B B-16 1A-1C
   8-2E 1D 11-4 2-9 B-4 2-28 18-2 2-7 15-16 4 4-31 2 4-1 3-4 3 2 19-2 3-A 8-2 D-5 3-5 3-5 A-6 2-6 3B
   57-22 1E-2BA3 D-16 5-30 2105-16D 3-69 44 2-9 2-C 2-4 2 2-1 2-1 2-6B 22-8A 7-D9 13-3F 3-35 29-9 78
   2 4-6/2 2-7D 6A-37 3-1E 4-5 3-5 3-5 3-2 24-B 2-19 2-12 2-1 2-E 3-D 23-7A 46-34 10C-1C 4-30 30-1F
   E-1D 6-25 B-1D 3-23 5-7 2-4 7B-4D 63-27 9-33 9D-136 A-15 B-7 1A-1 7E-5 3 2-2B 2-1 4 3-16 B-16
   A-1E 42-12 2-1 B-15 B-19 47-37 7-1 41 10-3 2-2 2-1C 2B-1C 4-1C 24-7 2-1B 1C-35 B-15 B-12 E-11
   6F-48 B8-23 15D-29 7-1 4F-1C B 9-15 2B-11 2F-14 1C-16 D-34 3A-1 3 E-2C 21-18 1B-23 1E 3 9-22 4
   D-2F F-3 16 2 24-11 2-18 55-6 2 2-3 2-E 2-9 8-2E 27-7 3-1 3-15 2-6 2-1 2-4 4 13 D-4 9F-34 13-3
   15-2 1F-2F 15-1 2 B9-2E 2A-3 25-2F 15 3C-2A E 48-1A 26-6 BA-2B D4-7 3 3-7 2-1 2-17 10 2 5F-7 3-26
   11 2 1D B-27 8 16 C-2D 14 13-48 108-8 2-24 12 32-1D 71-6 2-1 2-25 16 1A-5 2-1 2-1F F 148-12 BE
   50-399 67-6E 12-C3 A4D-60 10-42E FD2-246 21BA-238 8-1E 12-4E 12-1D 13-2F 11-3 20-14 6-12 371-4A 6
   43-C 41-1 2 1D-17F7 9-4D5 2B-8 22E8-3 2-6 2-1 2-122 2E-2 12-3 9-18B 905-6A 6-C 4-8 8-9 2271
   1F6-2C B-6 11 142-1D 13-2B 4F5-6 2-3 2-1 2-E 2-C4 87 4B5-3 2-1A 2-1 2 3 2-9 2-3 2 2 7 5-4/2 2-2
   2-1 2 3-8/2 2-1 2 3-3 2-6 2-3 2-3 2 2-9 2-10 6-2 2-4 2-10 1145-A6DF 21-1038 8-DD 3-1681 F-1D30
   C20-21D 5E3-134A"

/-- Other characters that may start a name. -/
def idStart : String :=
  "1885-1 892 16"

/-- Marks that are put on letters. -/
def mark : String :=
  "B7 249-6F 18 FC-4 10A-2C 2 2-1 2-1 2 49-A 31-14 11 66-6 3-9 2-3 24 1F-1A 5C-A 3B-8 A 19-17 2C-2
   3D-7 2B-17 2-1F 38 2 5-7 5 4-6 B-1 1E 3B 5-3 9 15-1 1B 3-1 3A 5-1 5-1 3-2 4 1F-1 4 C-1 3A 5-4 2-1
   5 15-1 17-5 2 3B 3 2-3 9 8-1 C-1 1F 3E D 33 4 38 2-2 6-2 2-3 8-1 C-1 1E 3B 3 7 6-1 15-1 1D-1 3A-1
   5-3 9 15-1 1E 49 8-2 2 5B 3-6 D-7 63 3-8 C-5 4B-1 1C-4/2 38-D 2-4 2-1 6-A 2-23 A 67-3 2-5 2-1 3-1
   1A-1 5-2 11-3 E 3-1 7 10 2C0-2 3B3-2 1E-1 1F-1 1F-1 41-1 2-6 9 3-A A 2E-2 2 9A 77-2 5-1 A 7-2
   DC-1 3 3B 2-6 2 2 3-7 7-9 3 31-D 2-F 32-3 31 2-4 2 6 29-8 D-1 21-3 3-1 2-2 39 2-1 4 2-2 3B-7 3-1
   99-2 2-C 2-6 5 7 4-1 C7-3F 2D1-C 5 4-B BFF-2 8E 61-1F 22B-3 6C-1 75D5 5-9 21-1 51-1 111 4 5 1A-1
   6 98-1 1B-11 E 27-7 1A-A 2F-2 31 3-3 3-1 28 44-5 3-1 3-1 D 9 30 34 2-2 3-1 6-1 2 2B-1 9 EF 3 5
   4F31 2E2-F 11-F 16F-1 25E E3 96-4 687-2 2-1 6-3 29-2 5 A6-1 23E-3 184-1 9A-A 32-3 7C 37-E 2A 3-1
   B-2 32-3 3-1 8 3E-2 25-4 2-7 3F D-1 35-8 B-3 3 60-2 3 2-1 7 A1 4-7 16-1 3A-1 4 26-6 4-4 C4-7 3-2
   2 18 55-5 2 5-1 2-1 EF-3 7-1 2-1 1C-1 56-7 3 2-1 6B 2 3-5 2 66-2 3-3 2-4 104-8 2-1 101-1 2 5 91-3
   3-1 5 21-9 29-5 3-3 9 A-5 3-2 2F-C 2-1 197-6 2-5 2 53-15 3-6 2-1 2-1 7B-5 4 2-1 2-6 2 49-1 4 2
   15C-1 4BFC-4 3C-6 419 40-3 52 4CB9-1 1262-2D 3-16 221-2 12-7 3-6 1F-3 95-2 7BC-36 5-31 9 F 17-4
   2-E 551-6 2-10 3-6 2-1 2-4 106-6 178 3E-3 5E1-6 6E-6 C17B6-EF"

/-- Other characters that may stand in a name, but not start one. -/
def idContinue : String :=
  "903-4C 33-1 3B-2 7-1 3-1 B 2C 3B-2 43 3B-2 9 2-1 36-1 3B-2 7-1 3-1 B 67-4 4-2 2-2 B 2A-2 3E-3
   3E-1 3B-6 3-1 2-1 A-1 2C-1 3B-2 6-2 2-2 B 2B-1 4C-2 7-7 13-1 40 80 8B-1 40 AC-11 1A-46 2CD-8 3A4
   1F 82-12 15B-8 5-8 A2 3F-1 3B-2 A-11 92-40 3E-71 31-11 AC-16 348-1 14 FDA-1 77F4-4 59-43 8F-1
   30-3D 6F-5 19 2E-2 6E-4 6 EE-7 2 5247-1 19-2 F0 10C1-2 80-36 74 19-1 3C-3E E 5E-9 AB-2 20-1 3B-6
   3-1 3-2 A B-1 D2-10 6B-11 EE-2 7-6 72-E 6E-A 6A-6 106-C F8-5 2-1 5-5 8F-2 9-3 5 55 1E-40 198 F
   6B-B D6-4 5-3 15F-1 505B-36 69-1 6174-1 7-5"

/-- The zero of every script that writes decimal numbers; the other nine digits follow it. -/
def decimalZero : String :=
  "660 90 D0 1A6 80 80 80 80 80 80 80 80 80 6A 80 50 120 50 750 30 136 8A B0 10 C0 60 90 10 89D0 2B0
   30 D0 20 60 1A0 5320 590 890 336 8A 46 9A 120 160 80 180 70 70 1B0 70 300 100 50 4CC0 60 90 6C7E
   A A A A 94A 1B0 660 12A0"

/-- Other digits, such as superscript and circled ones. -/
def digit : String :=
  "B2-1 6 12B0-8 669 696 4-5 7-9 3D7-8 C-8 C-8 5A B-8 2 277-8 2-8 2-8 E2AE-3 41D-8 1EA-8 E0A6-A"

/-- Other numerals, and letters that may not start a name. -/
def numeral : String :=
  "BC-2 2BC 67A-5 179-5 79-2 86-6 DA-6 12-8 BB 80 77-9 43F-A 474-9 957-39 2E0-32 50-13 281-14 56A
   132 363-3 8B-9 1F-7 2-E 21-9 28-E 7571-5 5429-5 197-1 75-4 2-8 120-1 168-2C 42-3 12-1 156-1A 25-3
   535-7 1A-6 28-8 4C-20 A1-13 3-2D 45-4 35-1 1F-2 4C-4 69-7 19-7 2A-6 14B-5 16A-15 9F-9 2B-3 71-6
   90-A 17C-13 546-1 1AF-8 368-12 354-14 4B87-6 31F-16 644A-13 6D-18 154F-8 3A2-3A 2-2 2-3 4D-2C 2-E
   3CE-1"

def space : String :=
  "85 1B 15E0 980-A 1E-1 6 30 FA1"

/-- Other characters that are shown as themselves. -/
def printable : String :=
  "A1-B 2-2C7 5-4 6-1 71-93 D1-30 3-2 2F-8 2D-1 12-15 2-B7 A-2F E9-3 5-1 31-E 20 2A DC-C 82-B 79
   7A-1 7F-7 79-A 7D-D CB 9-6 12-9 7B 4B-1C A6-3C 48 39-E 2-C 70-55 5C 265-1C 14-9 67-26E 2D-1 4F-2
   48-1 9E-7 15-9 7-A 136 4-1 99-21 1F-1 81-D 11 9C-24 7E-3 3C-4 3F-1 41-7 C 2EA-4 C-2 E-12 E-1
   12-17 9-2E 12 4-1A 12-20 1D-7 1C-8B 5-296 1A-A 16-713 3-1F 2-153 F-6 71 90-5D 23-19 2-58 D-D5
   1B-B 6-3E 5C-60 95-53 1D-1E 2-1BDF 5691-36 38-111 61-87 9-8A 9E-3 5-9 3B-3 57-1 29-37 30 62-C
   11-1 7D-1D 65-13 6A-10 80 4F3E 89-10 9C-F1 80 2B-1F 17-22 2-12 2-3 5-4 2-8 83-64 7B-6 2-6 E-1
   103-2 5-2C 4-57 2-C 4 30-2C E5-1A 25-3 7C 31 19F 2E8-28 28-8 4C-20 4 20 7D-13 3-2D 41-8 8-8 25-22
   29 23-B 43-6 19-7 19-7 1A-3 D-6 14B-5 161-1E 2F 70-9 2B-8 2D-3 3C-6 7C-6 5-13 56-1 2-3 7F-3 31-1
   50-1A 2-13 44-5 6C 1A2-10 2 69 FB-16 6A-2 1D-C 4D 81-5 FC AF-8 52-2 9C 5D-7 54-8 19F-4 15-12 4-1
   286-1 C8-31 E 471-4 B7D-1 3A7C-1 86 42-E 16-6 31F-1A 148 4CBA-3 12B1-73 3D-F5 B-26 3-43 17-67
   16-45 9B-13 D-56 A-18 349-102 3D-28B 6C4 1B0 5C8-8 8F-1 312-43 4D-3C 1B3-1 10F-2B 5-63 D-E 3-E
   2-E 2-24 B-AD 39-1C E-2B 5-8 8-1 F-5 9B-3D7 6-F 4-C 4-73 D-58 8-B 5 10-B 5-37 9-9 7-27 9-1D 3-1
   4F-153 D-D 3-4 4-4 4-6 A-1C 4-A 6-5 B-9 7-7 9-6 A-92 2-36"

/-- Characters with a case that are no letters. -/
def cased : String :=
  "345 35 213C-33 1CC47-19 7-19 7-19"

/-- Other characters that are skipped when the case context of a letter is looked at. -/
def caseIgnorable : String :=
  "A8 5 2 5 4 1F8-4F 75-1 5 A-1 103-1 D0 6 95 C-5 17 24 9D 32 E5-1 5 8E 8-1 38-19 8F 4D5 80 236 6DB
   37 35 42-1 221 17 1BA-5 AF-3E E 23-24 1FE 2-2 C-2 E-2 E-2 E-1 D-4 9-1 B 3 3-4 32-4 2-9 2 E 11-C
   41-7 B98-1 F2 C0 1D6 2C-4 6 60-3 5E-2 6F17 4E3-5 10F 64-2 D 1D-1 63-21 4F 18-2 68-2 4-1 1D6 17 8A
   6D 16-1 67-4 A-2 5047-10 251 3F 3 AA 8 7 C 24 2 30 73 16-2 785-5 2-29 2-8 903 10 2363-8 3708-3
   450-C 41-1 2 400D-3 2-6 2-1 CA2-3 14D0-7 FBD-6 80E AB0-4 C0C02 1F-5F"

end BlockScript.Text.RangeData
