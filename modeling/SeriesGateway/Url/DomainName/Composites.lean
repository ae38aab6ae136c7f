import SeriesGateway.Text.CodePoints

namespace SeriesGateway.Url.DomainName

/-- Code points and their two parts, the first of which may be composed in turn. -/
def composites : List CodePoints.Stretch := CodePoints.stretches "
  C0:41.300 41.301 41.302 41.303 41.308 41.30A C7:43.327 45.300 45.301 45.302 45.308 49.300 49.301
  49.302 49.308 D1:4E.303 4F.300 4F.301 4F.302 4F.303 4F.308 D9:55.300 55.301 55.302 55.308 59.301
  E0:61.300 61.301 61.302 61.303 61.308 61.30A E7:63.327 65.300 65.301 65.302 65.308 69.300 69.301
  69.302 69.308 F1:6E.303 6F.300 6F.301 6F.302 6F.303 6F.308 F9:75.300 75.301 75.302 75.308 79.301
  FF:79.308 41.304 61.304 41.306 61.306 41.328 61.328 43.301 63.301 43.302 63.302 43.307 63.307
  43.30C 63.30C 44.30C 64.30C 112:45.304 65.304 45.306 65.306 45.307 65.307 45.328 65.328 45.30C
  65.30C 47.302 67.302 47.306 67.306 47.307 67.307 47.327 67.327 48.302 68.302 128:49.303 69.303
  49.304 69.304 49.306 69.306 49.328 69.328 49.307 134:4A.302 6A.302 4B.327 6B.327 139:4C.301
  6C.301 4C.327 6C.327 4C.30C 6C.30C 143:4E.301 6E.301 4E.327 6E.327 4E.30C 6E.30C 14C:4F.304
  6F.304 4F.306 6F.306 4F.30B 6F.30B 154:52.301 72.301 52.327 72.327 52.30C 72.30C 53.301 73.301
  53.302 73.302 53.327 73.327 53.30C 73.30C 54.327 74.327 54.30C 74.30C 168:55.303 75.303 55.304
  75.304 55.306 75.306 55.30A 75.30A 55.30B 75.30B 55.328 75.328 57.302 77.302 59.302 79.302
  59.308 5A.301 7A.301 5A.307 7A.307 5A.30C 7A.30C 1A0:4F.31B 6F.31B 1AF:55.31B 75.31B 1CD:41.30C
  61.30C 49.30C 69.30C 4F.30C 6F.30C 55.30C 75.30C DC.304 FC.304 DC.301 FC.301 DC.30C FC.30C
  DC.300 FC.300 1DE:C4.304 E4.304 226.304 227.304 C6.304 E6.304 1E6:47.30C 67.30C 4B.30C 6B.30C
  4F.328 6F.328 1EA.304 1EB.304 1B7.30C 292.30C 6A.30C 1F4:47.301 67.301 1F8:4E.300 6E.300 C5.301
  E5.301 C6.301 E6.301 D8.301 F8.301 41.30F 61.30F 41.311 61.311 45.30F 65.30F 45.311 65.311
  49.30F 69.30F 49.311 69.311 4F.30F 6F.30F 4F.311 6F.311 52.30F 72.30F 52.311 72.311 55.30F
  75.30F 55.311 75.311 53.326 73.326 54.326 74.326 21E:48.30C 68.30C 226:41.307 61.307 45.327
  65.327 D6.304 F6.304 D5.304 F5.304 4F.307 6F.307 22E.304 22F.304 59.304 79.304 385:A8.301
  391.301 388:395.301 397.301 399.301 38C:39F.301 38E:3A5.301 3A9.301 3CA.301 3AA:399.308 3A5.308
  3B1.301 3B5.301 3B7.301 3B9.301 3CB.301 3CA:3B9.308 3C5.308 3BF.301 3C5.301 3C9.301 3D3:3D2.301
  3D2.308 400:415.300 415.308 403:413.301 407:406.308 40C:41A.301 418.300 423.306 419:418.306
  439:438.306 450:435.300 435.308 453:433.301 457:456.308 45C:43A.301 438.300 443.306 476:474.30F
  475.30F 4C1:416.306 436.306 4D0:410.306 430.306 410.308 430.308 4D6:415.306 435.306 4DA:4D8.308
  4D9.308 416.308 436.308 417.308 437.308 4E2:418.304 438.304 418.308 438.308 41E.308 43E.308
  4EA:4E8.308 4E9.308 42D.308 44D.308 423.304 443.304 423.308 443.308 423.30B 443.30B 427.308
  447.308 4F8:42B.308 44B.308 622:627.653 627.654 648.654 627.655 64A.654 6C0:6D5.654 6C2:6C1.654
  6D3:6D2.654 929:928.93C 931:930.93C 934:933.93C 9CB:9C7.9BE 9C7.9D7 B48:B47.B56 B4B:B47.B3E
  B47.B57 B94:B92.BD7 BCA:BC6.BBE BC7.BBE BC6.BD7 C48:C46.C56 CC0:CBF.CD5 CC7:CC6.CD5 CC6.CD6
  CCA:CC6.CC2 CCA.CD5 D4A:D46.D3E D47.D3E D46.D57 DDA:DD9.DCA DDC:DD9.DCF DDC.DCA DD9.DDF
  1026:1025.102E 1B06:1B05.1B35 1B08:1B07.1B35 1B0A:1B09.1B35 1B0C:1B0B.1B35 1B0E:1B0D.1B35
  1B12:1B11.1B35 1B3B:1B3A.1B35 1B3D:1B3C.1B35 1B40:1B3E.1B35 1B3F.1B35 1B43:1B42.1B35 1E00:41.325
  61.325 42.307 62.307 42.323 62.323 42.331 62.331 C7.301 E7.301 44.307 64.307 44.323 64.323
  44.331 64.331 44.327 64.327 44.32D 64.32D 112.300 113.300 112.301 113.301 45.32D 65.32D 45.330
  65.330 228.306 229.306 46.307 66.307 47.304 67.304 48.307 68.307 48.323 68.323 48.308 68.308
  48.327 68.327 48.32E 68.32E 49.330 69.330 CF.301 EF.301 4B.301 6B.301 4B.323 6B.323 4B.331
  6B.331 4C.323 6C.323 1E36.304 1E37.304 4C.331 6C.331 4C.32D 6C.32D 4D.301 6D.301 4D.307 6D.307
  4D.323 6D.323 4E.307 6E.307 4E.323 6E.323 4E.331 6E.331 4E.32D 6E.32D D5.301 F5.301 D5.308
  F5.308 14C.300 14D.300 14C.301 14D.301 50.301 70.301 50.307 70.307 52.307 72.307 52.323 72.323
  1E5A.304 1E5B.304 52.331 72.331 53.307 73.307 53.323 73.323 15A.307 15B.307 160.307 161.307
  1E62.307 1E63.307 54.307 74.307 54.323 74.323 54.331 74.331 54.32D 74.32D 55.324 75.324 55.330
  75.330 55.32D 75.32D 168.301 169.301 16A.308 16B.308 56.303 76.303 56.323 76.323 57.300 77.300
  57.301 77.301 57.308 77.308 57.307 77.307 57.323 77.323 58.307 78.307 58.308 78.308 59.307
  79.307 5A.302 7A.302 5A.323 7A.323 5A.331 7A.331 68.331 74.308 77.30A 79.30A 1E9B:17F.307
  1EA0:41.323 61.323 41.309 61.309 C2.301 E2.301 C2.300 E2.300 C2.309 E2.309 C2.303 E2.303
  1EA0.302 1EA1.302 102.301 103.301 102.300 103.300 102.309 103.309 102.303 103.303 1EA0.306
  1EA1.306 45.323 65.323 45.309 65.309 45.303 65.303 CA.301 EA.301 CA.300 EA.300 CA.309 EA.309
  CA.303 EA.303 1EB8.302 1EB9.302 49.309 69.309 49.323 69.323 4F.323 6F.323 4F.309 6F.309 D4.301
  F4.301 D4.300 F4.300 D4.309 F4.309 D4.303 F4.303 1ECC.302 1ECD.302 1A0.301 1A1.301 1A0.300
  1A1.300 1A0.309 1A1.309 1A0.303 1A1.303 1A0.323 1A1.323 55.323 75.323 55.309 75.309 1AF.301
  1B0.301 1AF.300 1B0.300 1AF.309 1B0.309 1AF.303 1B0.303 1AF.323 1B0.323 59.300 79.300 59.323
  79.323 59.309 79.309 59.303 79.303 1F00:3B1.313 3B1.314 1F00.300 1F01.300 1F00.301 1F01.301
  1F00.342 1F01.342 391.313 391.314 1F08.300 1F09.300 1F08.301 1F09.301 1F08.342 1F09.342 3B5.313
  3B5.314 1F10.300 1F11.300 1F10.301 1F11.301 1F18:395.313 395.314 1F18.300 1F19.300 1F18.301
  1F19.301 1F20:3B7.313 3B7.314 1F20.300 1F21.300 1F20.301 1F21.301 1F20.342 1F21.342 397.313
  397.314 1F28.300 1F29.300 1F28.301 1F29.301 1F28.342 1F29.342 3B9.313 3B9.314 1F30.300 1F31.300
  1F30.301 1F31.301 1F30.342 1F31.342 399.313 399.314 1F38.300 1F39.300 1F38.301 1F39.301 1F38.342
  1F39.342 3BF.313 3BF.314 1F40.300 1F41.300 1F40.301 1F41.301 1F48:39F.313 39F.314 1F48.300
  1F49.300 1F48.301 1F49.301 1F50:3C5.313 3C5.314 1F50.300 1F51.300 1F50.301 1F51.301 1F50.342
  1F51.342 1F59:3A5.314 1F5B:1F59.300 1F5D:1F59.301 1F5F:1F59.342 3C9.313 3C9.314 1F60.300
  1F61.300 1F60.301 1F61.301 1F60.342 1F61.342 3A9.313 3A9.314 1F68.300 1F69.300 1F68.301 1F69.301
  1F68.342 1F69.342 3B1.300 1F72:3B5.300 1F74:3B7.300 1F76:3B9.300 1F78:3BF.300 1F7A:3C5.300
  1F7C:3C9.300 1F80:1F00.345 1F01.345 1F02.345 1F03.345 1F04.345 1F05.345 1F06.345 1F07.345
  1F08.345 1F09.345 1F0A.345 1F0B.345 1F0C.345 1F0D.345 1F0E.345 1F0F.345 1F20.345 1F21.345
  1F22.345 1F23.345 1F24.345 1F25.345 1F26.345 1F27.345 1F28.345 1F29.345 1F2A.345 1F2B.345
  1F2C.345 1F2D.345 1F2E.345 1F2F.345 1F60.345 1F61.345 1F62.345 1F63.345 1F64.345 1F65.345
  1F66.345 1F67.345 1F68.345 1F69.345 1F6A.345 1F6B.345 1F6C.345 1F6D.345 1F6E.345 1F6F.345
  3B1.306 3B1.304 1F70.345 3B1.345 3AC.345 1FB6:3B1.342 1FB6.345 391.306 391.304 391.300
  1FBC:391.345 1FC1:A8.342 1F74.345 3B7.345 3AE.345 1FC6:3B7.342 1FC6.345 395.300 1FCA:397.300
  1FCC:397.345 1FBF.300 1FBF.301 1FBF.342 3B9.306 3B9.304 3CA.300 1FD6:3B9.342 3CA.342 399.306
  399.304 399.300 1FDD:1FFE.300 1FFE.301 1FFE.342 3C5.306 3C5.304 3CB.300 1FE4:3C1.313 3C1.314
  3C5.342 3CB.342 3A5.306 3A5.304 3A5.300 1FEC:3A1.314 A8.300 1FF2:1F7C.345 3C9.345 3CE.345
  1FF6:3C9.342 1FF6.345 39F.300 1FFA:3A9.300 1FFC:3A9.345 219A:2190.338 2192.338 21AE:2194.338
  21CD:21D0.338 21D4.338 21D2.338 2204:2203.338 2209:2208.338 220C:220B.338 2224:2223.338
  2226:2225.338 2241:223C.338 2244:2243.338 2247:2245.338 2249:2248.338 2260:3D.338 2262:2261.338
  226D:224D.338 3C.338 3E.338 2264.338 2265.338 2274:2272.338 2273.338 2278:2276.338 2277.338
  2280:227A.338 227B.338 2284:2282.338 2283.338 2288:2286.338 2287.338 22AC:22A2.338 22A8.338
  22A9.338 22AB.338 22E0:227C.338 227D.338 2291.338 2292.338 22EA:22B2.338 22B3.338 22B4.338
  22B5.338 304C:304B.3099 304E:304D.3099 3050:304F.3099 3052:3051.3099 3054:3053.3099
  3056:3055.3099 3058:3057.3099 305A:3059.3099 305C:305B.3099 305E:305D.3099 3060:305F.3099
  3062:3061.3099 3065:3064.3099 3067:3066.3099 3069:3068.3099 3070:306F.3099 306F.309A
  3073:3072.3099 3072.309A 3076:3075.3099 3075.309A 3079:3078.3099 3078.309A 307C:307B.3099
  307B.309A 3094:3046.3099 309E:309D.3099 30AC:30AB.3099 30AE:30AD.3099 30B0:30AF.3099
  30B2:30B1.3099 30B4:30B3.3099 30B6:30B5.3099 30B8:30B7.3099 30BA:30B9.3099 30BC:30BB.3099
  30BE:30BD.3099 30C0:30BF.3099 30C2:30C1.3099 30C5:30C4.3099 30C7:30C6.3099 30C9:30C8.3099
  30D0:30CF.3099 30CF.309A 30D3:30D2.3099 30D2.309A 30D6:30D5.3099 30D5.309A 30D9:30D8.3099
  30D8.309A 30DC:30DB.3099 30DB.309A 30F4:30A6.3099 30F7:30EF.3099 30F0.3099 30F1.3099 30F2.3099
  30FE:30FD.3099 105C9:105D2.307 105E4:105DA.307 1109A:11099.110BA 1109C:1109B.110BA
  110AB:110A5.110BA 1112E:11131.11127 11132.11127 1134B:11347.1133E 11347.11357 11383:11382.113C9
  11385:11384.113BB 1138E:1138B.113C2 11391:11390.113C9 113C5:113C2.113C2 113C7:113C2.113B8
  113C2.113C9 114BB:114B9.114BA 114B9.114B0 114BE:114B9.114BD 115BA:115B8.115AF 115B9.115AF
  11938:11935.11930 16121:1611E.1611E 1611E.16129 1611E.1611F 16129.1611F 1611E.16120 16121.1611F
  16122.1611F 16121.16120 16D68:16D67.16D67 16D63.16D67 16D69.16D67"

/-- Blocks of Hangul have a lead, a vowel and perhaps a tail, and stand in the order of these. -/
def leads : CodePoints.Span := ⟨0x1100, 0x1112⟩

def vowels : CodePoints.Span := ⟨0x1161, 0x1175⟩

def tails : CodePoints.Span := ⟨0x11A8, 0x11C2⟩

def blocks : CodePoints.Span := ⟨0xAC00, 0xD7A3⟩

/-- Whether a code point is a block without tail. -/
def isOpenBlock (n : Nat) : Bool :=
  blocks.contains n && (n - blocks.first) % 28 == 0

/-- The two parts of a code point, if it is composed. A block with a tail is composed of the block
without it, and a block without tail of a lead and a vowel. -/
def parts? (n : Nat) : Option (Nat × Nat) :=
  let place := n - blocks.first
  if isOpenBlock n then some (leads.first + place / 588, vowels.first + place % 588 / 28)
  else if blocks.contains n then some (n - place % 28, tails.first + (place % 28 - 1))
  else match CodePoints.images? composites n with
    | some [first, second] => some (first, second)
    | _ => none

/-- The code point that is composed of two. -/
def composite? (first second : Nat) : Option Nat :=
  if leads.contains first && vowels.contains second then
    some (blocks.first + (first - leads.first) * 588 + (second - vowels.first) * 28)
  else if isOpenBlock first && tails.contains second then
    some (first + (second - tails.first) + 1)
  else
    (composites.find? (·.images == [first, second])).map (·.span.first)

end SeriesGateway.Url.DomainName
