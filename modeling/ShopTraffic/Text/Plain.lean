import ShopTraffic.Text.Ranges

/-!
# Plain forms

Many characters are forms of letters and digits of ASCII: raised and lowered ones, wide ones, ones
in circles or in the styles of mathematics, and signs that stand for an abbreviation. Full stops have
other forms too, and some characters only shape what stands beside them. The forms are those of
Unicode 17.

* `plain` — the plain form of a character; `folded` — a text in plain forms.
-/

namespace ShopTraffic.Text

/-- Ranges of characters whose plain forms follow each other, with the plain form of the first. -/
def plainRuns : List (Nat × Nat × Char) :=
  [(0xaa, 0xaa, 'a'), (0xb2, 0xb3, '2'), (0xb9, 0xb9, '1'), (0xba, 0xba, 'o'), (0x17f, 0x17f, 's'),
    (0x2b0, 0x2b0, 'h'), (0x2b2, 0x2b2, 'j'), (0x2b3, 0x2b3, 'r'), (0x2b7, 0x2b7, 'w'),
    (0x2b8, 0x2b8, 'y'), (0x2e1, 0x2e1, 'l'), (0x2e2, 0x2e2, 's'), (0x2e3, 0x2e3, 'x'),
    (0x1d2c, 0x1d2c, 'a'), (0x1d2e, 0x1d2e, 'b'), (0x1d30, 0x1d31, 'd'), (0x1d33, 0x1d3a, 'g'),
    (0x1d3c, 0x1d3c, 'o'), (0x1d3e, 0x1d3e, 'p'), (0x1d3f, 0x1d3f, 'r'), (0x1d40, 0x1d41, 't'),
    (0x1d42, 0x1d42, 'w'), (0x1d43, 0x1d43, 'a'), (0x1d47, 0x1d47, 'b'), (0x1d48, 0x1d49, 'd'),
    (0x1d4d, 0x1d4d, 'g'), (0x1d4f, 0x1d4f, 'k'), (0x1d50, 0x1d50, 'm'), (0x1d52, 0x1d52, 'o'),
    (0x1d56, 0x1d56, 'p'), (0x1d57, 0x1d58, 't'), (0x1d5b, 0x1d5b, 'v'), (0x1d62, 0x1d62, 'i'),
    (0x1d63, 0x1d63, 'r'), (0x1d64, 0x1d65, 'u'), (0x1d9c, 0x1d9c, 'c'), (0x1da0, 0x1da0, 'f'),
    (0x1dbb, 0x1dbb, 'z'), (0x2070, 0x2070, '0'), (0x2071, 0x2071, 'i'), (0x2074, 0x2079, '4'),
    (0x207f, 0x207f, 'n'), (0x2080, 0x2089, '0'), (0x2090, 0x2090, 'a'), (0x2091, 0x2091, 'e'),
    (0x2092, 0x2092, 'o'), (0x2093, 0x2093, 'x'), (0x2095, 0x2095, 'h'), (0x2096, 0x2099, 'k'),
    (0x209a, 0x209a, 'p'), (0x209b, 0x209c, 's'), (0x2102, 0x2102, 'c'), (0x210a, 0x210b, 'g'),
    (0x210c, 0x210c, 'h'), (0x210d, 0x210d, 'h'), (0x210e, 0x210e, 'h'), (0x2110, 0x2110, 'i'),
    (0x2111, 0x2111, 'i'), (0x2112, 0x2112, 'l'), (0x2113, 0x2113, 'l'), (0x2115, 0x2115, 'n'),
    (0x2119, 0x211b, 'p'), (0x211c, 0x211c, 'r'), (0x211d, 0x211d, 'r'), (0x2124, 0x2124, 'z'),
    (0x2128, 0x2128, 'z'), (0x212a, 0x212a, 'k'), (0x212c, 0x212d, 'b'), (0x212f, 0x212f, 'e'),
    (0x2130, 0x2131, 'e'), (0x2133, 0x2133, 'm'), (0x2134, 0x2134, 'o'), (0x2139, 0x2139, 'i'),
    (0x2145, 0x2145, 'd'), (0x2146, 0x2147, 'd'), (0x2148, 0x2149, 'i'), (0x2160, 0x2160, 'i'),
    (0x2164, 0x2164, 'v'), (0x2169, 0x2169, 'x'), (0x216c, 0x216c, 'l'), (0x216d, 0x216e, 'c'),
    (0x216f, 0x216f, 'm'), (0x2170, 0x2170, 'i'), (0x2174, 0x2174, 'v'), (0x2179, 0x2179, 'x'),
    (0x217c, 0x217c, 'l'), (0x217d, 0x217e, 'c'), (0x217f, 0x217f, 'm'), (0x2460, 0x2468, '1'),
    (0x24b6, 0x24cf, 'a'), (0x24d0, 0x24e9, 'a'), (0x24ea, 0x24ea, '0'), (0x2c7c, 0x2c7c, 'j'),
    (0x2c7d, 0x2c7d, 'v'), (0x3002, 0x3002, '.'), (0xa7f1, 0xa7f1, 's'), (0xa7f2, 0xa7f2, 'c'),
    (0xa7f3, 0xa7f3, 'f'), (0xa7f4, 0xa7f4, 'q'), (0xff0e, 0xff0e, '.'), (0xff10, 0xff19, '0'),
    (0xff21, 0xff3a, 'a'), (0xff41, 0xff5a, 'a'), (0xff61, 0xff61, '.'), (0x107a5, 0x107a5, 'q'),
    (0x1ccd6, 0x1ccef, 'a'), (0x1ccf0, 0x1ccf9, '0'), (0x1d400, 0x1d419, 'a'),
    (0x1d41a, 0x1d433, 'a'), (0x1d434, 0x1d44d, 'a'), (0x1d44e, 0x1d454, 'a'),
    (0x1d456, 0x1d467, 'i'), (0x1d468, 0x1d481, 'a'), (0x1d482, 0x1d49b, 'a'),
    (0x1d49c, 0x1d49c, 'a'), (0x1d49e, 0x1d49f, 'c'), (0x1d4a2, 0x1d4a2, 'g'),
    (0x1d4a5, 0x1d4a6, 'j'), (0x1d4a9, 0x1d4ac, 'n'), (0x1d4ae, 0x1d4b5, 's'),
    (0x1d4b6, 0x1d4b9, 'a'), (0x1d4bb, 0x1d4bb, 'f'), (0x1d4bd, 0x1d4c3, 'h'),
    (0x1d4c5, 0x1d4cf, 'p'), (0x1d4d0, 0x1d4e9, 'a'), (0x1d4ea, 0x1d503, 'a'),
    (0x1d504, 0x1d505, 'a'), (0x1d507, 0x1d50a, 'd'), (0x1d50d, 0x1d514, 'j'),
    (0x1d516, 0x1d51c, 's'), (0x1d51e, 0x1d537, 'a'), (0x1d538, 0x1d539, 'a'),
    (0x1d53b, 0x1d53e, 'd'), (0x1d540, 0x1d544, 'i'), (0x1d546, 0x1d546, 'o'),
    (0x1d54a, 0x1d550, 's'), (0x1d552, 0x1d56b, 'a'), (0x1d56c, 0x1d585, 'a'),
    (0x1d586, 0x1d59f, 'a'), (0x1d5a0, 0x1d5b9, 'a'), (0x1d5ba, 0x1d5d3, 'a'),
    (0x1d5d4, 0x1d5ed, 'a'), (0x1d5ee, 0x1d607, 'a'), (0x1d608, 0x1d621, 'a'),
    (0x1d622, 0x1d63b, 'a'), (0x1d63c, 0x1d655, 'a'), (0x1d656, 0x1d66f, 'a'),
    (0x1d670, 0x1d689, 'a'), (0x1d68a, 0x1d6a3, 'a'), (0x1d7ce, 0x1d7d7, '0'),
    (0x1d7d8, 0x1d7e1, '0'), (0x1d7e2, 0x1d7eb, '0'), (0x1d7ec, 0x1d7f5, '0'),
    (0x1d7f6, 0x1d7ff, '0'), (0x1f12b, 0x1f12b, 'c'), (0x1f12c, 0x1f12c, 'r'),
    (0x1f130, 0x1f149, 'a'), (0x1fbf0, 0x1fbf9, '0')]

/-- Signs that stand for several letters or digits. -/
def plainTexts : List (Nat × String) :=
  [(0x132, "ij"), (0x133, "ij"), (0x1c7, "lj"), (0x1c8, "lj"), (0x1c9, "lj"), (0x1ca, "nj"),
    (0x1cb, "nj"), (0x1cc, "nj"), (0x1f1, "dz"), (0x1f2, "dz"), (0x1f3, "dz"), (0x20a8, "rs"),
    (0x2116, "no"), (0x2120, "sm"), (0x2121, "tel"), (0x2122, "tm"), (0x213b, "fax"),
    (0x2161, "ii"), (0x2162, "iii"), (0x2163, "iv"), (0x2165, "vi"), (0x2166, "vii"),
    (0x2167, "viii"), (0x2168, "ix"), (0x216a, "xi"), (0x216b, "xii"), (0x2171, "ii"),
    (0x2172, "iii"), (0x2173, "iv"), (0x2175, "vi"), (0x2176, "vii"), (0x2177, "viii"),
    (0x2178, "ix"), (0x217a, "xi"), (0x217b, "xii"), (0x2469, "10"), (0x246a, "11"), (0x246b, "12"),
    (0x246c, "13"), (0x246d, "14"), (0x246e, "15"), (0x246f, "16"), (0x2470, "17"), (0x2471, "18"),
    (0x2472, "19"), (0x2473, "20"), (0x3250, "pte"), (0x3251, "21"), (0x3252, "22"), (0x3253, "23"),
    (0x3254, "24"), (0x3255, "25"), (0x3256, "26"), (0x3257, "27"), (0x3258, "28"), (0x3259, "29"),
    (0x325a, "30"), (0x325b, "31"), (0x325c, "32"), (0x325d, "33"), (0x325e, "34"), (0x325f, "35"),
    (0x32b1, "36"), (0x32b2, "37"), (0x32b3, "38"), (0x32b4, "39"), (0x32b5, "40"), (0x32b6, "41"),
    (0x32b7, "42"), (0x32b8, "43"), (0x32b9, "44"), (0x32ba, "45"), (0x32bb, "46"), (0x32bc, "47"),
    (0x32bd, "48"), (0x32be, "49"), (0x32bf, "50"), (0x32cc, "hg"), (0x32cd, "erg"), (0x32ce, "ev"),
    (0x32cf, "ltd"), (0x3371, "hpa"), (0x3372, "da"), (0x3373, "au"), (0x3374, "bar"),
    (0x3375, "ov"), (0x3376, "pc"), (0x3377, "dm"), (0x3378, "dm2"), (0x3379, "dm3"),
    (0x337a, "iu"), (0x3380, "pa"), (0x3381, "na"), (0x3383, "ma"), (0x3384, "ka"), (0x3385, "kb"),
    (0x3386, "mb"), (0x3387, "gb"), (0x3388, "cal"), (0x3389, "kcal"), (0x338a, "pf"),
    (0x338b, "nf"), (0x338e, "mg"), (0x338f, "kg"), (0x3390, "hz"), (0x3391, "khz"),
    (0x3392, "mhz"), (0x3393, "ghz"), (0x3394, "thz"), (0x3396, "ml"), (0x3397, "dl"),
    (0x3398, "kl"), (0x3399, "fm"), (0x339a, "nm"), (0x339c, "mm"), (0x339d, "cm"), (0x339e, "km"),
    (0x339f, "mm2"), (0x33a0, "cm2"), (0x33a1, "m2"), (0x33a2, "km2"), (0x33a3, "mm3"),
    (0x33a4, "cm3"), (0x33a5, "m3"), (0x33a6, "km3"), (0x33a9, "pa"), (0x33aa, "kpa"),
    (0x33ab, "mpa"), (0x33ac, "gpa"), (0x33ad, "rad"), (0x33b0, "ps"), (0x33b1, "ns"),
    (0x33b3, "ms"), (0x33b4, "pv"), (0x33b5, "nv"), (0x33b7, "mv"), (0x33b8, "kv"), (0x33b9, "mv"),
    (0x33ba, "pw"), (0x33bb, "nw"), (0x33bd, "mw"), (0x33be, "kw"), (0x33bf, "mw"), (0x33c3, "bq"),
    (0x33c4, "cc"), (0x33c5, "cd"), (0x33c8, "db"), (0x33c9, "gy"), (0x33ca, "ha"), (0x33cb, "hp"),
    (0x33cc, "in"), (0x33cd, "kk"), (0x33ce, "km"), (0x33cf, "kt"), (0x33d0, "lm"), (0x33d1, "ln"),
    (0x33d2, "log"), (0x33d3, "lx"), (0x33d4, "mb"), (0x33d5, "mil"), (0x33d6, "mol"),
    (0x33d7, "ph"), (0x33d9, "ppm"), (0x33da, "pr"), (0x33db, "sr"), (0x33dc, "sv"), (0x33dd, "wb"),
    (0x33ff, "gal"), (0xfb00, "ff"), (0xfb01, "fi"), (0xfb02, "fl"), (0xfb03, "ffi"),
    (0xfb04, "ffl"), (0xfb05, "st"), (0xfb06, "st"), (0x1f12d, "cd"), (0x1f12e, "wz"),
    (0x1f14a, "hv"), (0x1f14b, "mv"), (0x1f14c, "sd"), (0x1f14d, "ss"), (0x1f14e, "ppv"),
    (0x1f14f, "wc"), (0x1f16a, "mc"), (0x1f16b, "md"), (0x1f16c, "mr"), (0x1f190, "dj")]

/-- Characters that leave no trace in a plain form. -/
def tracelessRanges : Ranges :=
  [(0xad, 0xad), (0x34f, 0x34f), (0x115f, 0x1160), (0x17b4, 0x17b5), (0x180b, 0x180f),
    (0x200b, 0x200b), (0x2060, 0x2064), (0x206a, 0x206f), (0x3164, 0x3164), (0xfe00, 0xfe0f),
    (0xfeff, 0xfeff), (0xffa0, 0xffa0), (0x1bca0, 0x1bca3), (0x1d173, 0x1d17a), (0xe0100, 0xe01ef)]

/-- The plain form of a character: small letters, digits and dots of ASCII where it has one. -/
def plain (c : Char) : List Char :=
  if c.toNat < 0x80 then [c.toLower]
  else if tracelessRanges.holds c then []
  else
    match plainRuns.find? fun (first, last, _) => first ≤ c.toNat && c.toNat ≤ last with
    | some (first, _, form) => [Char.ofNat (form.toNat + (c.toNat - first))]
    | none =>
      match plainTexts.lookup c.toNat with
      | some text => text.toList
      | none => [c]

/-- A text with every character in its plain form. -/
def folded (cs : List Char) : List Char := cs.flatMap plain

@[simp] theorem folded_append (cs ds : List Char) : folded (cs ++ ds) = folded cs ++ folded ds :=
  List.flatMap_append

end ShopTraffic.Text
