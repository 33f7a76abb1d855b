import ConstraintDirectives.Text.Script

namespace ConstraintDirectives.Text.Script

/-- What each script shares with others beside the characters of its own, by its full name. -/
def shared : List (String × CodeRanges) :=
  [ ("adlam", .ofHex "61F 640 204F 2E41"),
    ("arabic", .ofHex "60C 61B 61F 640 64B-655 670 204F 2E41 FD3E-FD3F 102E0-102FB"),
    ("armenian", .ofHex "308"),
    ("avestan", .ofHex "B7 2E30-2E31"),
    ("bengali",
      .ofHex "2BC 951-952 964-965 1CD0 1CD2 1CD5-1CD6 1CD8 1CE1 1CEA 1CED 1CF2 1CF5-1CF7 A8F1"),
    ("bopomofo",
      .ofHex "2C7 2C9-2CB 2D9 3001-3003 3008-3011 3013-301F 302A-302D 3030 3037 30FB FE45-FE46
        FF61-FF65"),
    ("buginese", .ofHex "A9CF"),
    ("buhid", .ofHex "1735-1736"),
    ("carian", .ofHex "B7 205A 205D 2E31"),
    ("caucasianalbanian", .ofHex "304 331 35E"),
    ("chakma", .ofHex "9E6-9EF 1040-1049"),
    ("cherokee", .ofHex "300-302 304 30B-30C 323-324 330-331"),
    ("coptic", .ofHex "B7 300 304-305 307 374-375 2E17 102E0-102FB"),
    ("cypriot", .ofHex "10100-10102 10107-10133 10137-1013F"),
    ("cyprominoan", .ofHex "10100-10101"),
    ("cyrillic", .ofHex "2BC 300-302 304 306 308 30B 311 485-486 1DF8 2E43"),
    ("devanagari", .ofHex "2BC 951-952 964-965 1CD0-1CF6 1CF8-1CF9 20F0 A830-A839"),
    ("dogra", .ofHex "964-96F A830-A839"),
    ("duployan", .ofHex "B7 307-308 30A 323-324 2E3C 1BCA0-1BCA3"),
    ("elbasan", .ofHex "B7 305"),
    ("ethiopic", .ofHex "30E"),
    ("garay", .ofHex "60C 61B 61F"),
    ("georgian", .ofHex "B7 589 10FB 205A 2E31"),
    ("glagolitic", .ofHex "B7 303 305 484 487 589 10FB 205A 2E43 A66F"),
    ("gothic", .ofHex "B7 304-305 308 331"),
    ("grantha",
      .ofHex "951-952 964-965 BE6-BF3 1CD0 1CD2-1CD3 1CF2-1CF4 1CF8-1CF9 20F0 1133B 11FD0-11FD1
        11FD3"),
    ("greek", .ofHex "B7 300-301 304 306 308 313 342 345 374 1DC0-1DC1 205D"),
    ("gujarati", .ofHex "951-952 964-965 A830-A839"),
    ("gunjalagondi", .ofHex "B7 964-965"),
    ("gurmukhi", .ofHex "951-952 964-965 A830-A839"),
    ("gurungkhema", .ofHex "965"),
    ("han",
      .ofHex "B7 2FF0-2FFF 3001-3003 3006 3008-3011 3013-301F 302A-302D 3030 3037 303C-303F 30FB
        3190-319F 31C0-31E5 31EF 3220-3247 3280-32B0 32C0-32CB 32FF 3358-3370 337B-337F 33E0-33FE
        A700-A707 FE45-FE46 FF61-FF65 1D360-1D371 1F250-1F251"),
    ("hangul", .ofHex "3001-3003 3008-3011 3013-301F 3030 3037 30FB FE45-FE46 FF61-FF65"),
    ("hanifirohingya", .ofHex "60C 61B 61F 640 6D4"),
    ("hanunoo", .ofHex "1735-1736"),
    ("hebrew", .ofHex "307-308"),
    ("hiragana",
      .ofHex "3001-3003 3008-3011 3013-301F 3030-3035 3037 303C-303D 3099-309C 30A0 30FB-30FC
        FE45-FE46 FF61-FF65 FF70 FF9E-FF9F"),
    ("javanese", .ofHex "A9CF"),
    ("kaithi", .ofHex "966-96F 2E31 A830-A839"),
    ("kannada", .ofHex "951-952 964-965 1CD0 1CD2-1CD3 1CDA 1CF2 1CF4 A830-A835"),
    ("katakana",
      .ofHex "305 323 3001-3003 3008-3011 3013-301F 3030-3035 3037 303C-303D 3099-309C 30A0
        30FB-30FC FE45-FE46 FF61-FF65 FF70 FF9E-FF9F"),
    ("kayahli", .ofHex "A92E"),
    ("khojki", .ofHex "AE6-AEF A830-A839"),
    ("khudawadi", .ofHex "964-965 A830-A839"),
    ("latin",
      .ofHex "B7 2BC 2C7 2C9-2CB 2CD 2D7 2D9 300-30E 310-311 313 323-325 32D-32E 330-331 358 35E
        363-36F 485-486 951-952 10FB 1DF8 202F 20F0 2E17 A700-A707 A92E"),
    ("limbu", .ofHex "965"),
    ("lineara", .ofHex "10107-10133"),
    ("linearb", .ofHex "10100-10102 10107-10133 10137-1013F"),
    ("lisu", .ofHex "2BC 2CD 300A-300B"),
    ("lycian", .ofHex "205A"),
    ("lydian", .ofHex "B7 2E31"),
    ("mahajani", .ofHex "B7 964-96F A830-A839"),
    ("malayalam", .ofHex "951-952 964-965 1CDA 1CF2 A830-A832"),
    ("mandaic", .ofHex "640"),
    ("manichaean", .ofHex "640"),
    ("masaramgondi", .ofHex "964-965"),
    ("meroitichieroglyphs", .ofHex "205D"),
    ("modi", .ofHex "A830-A839"),
    ("mongolian", .ofHex "1802-1803 1805 202F 3001-3002 3008-300B"),
    ("multani", .ofHex "A66-A6F"),
    ("myanmar", .ofHex "A92E"),
    ("nandinagari", .ofHex "951 964-965 CE6-CEF 1CE9 1CF2 1CFA A830-A835"),
    ("newa", .ofHex "951-952 1CD5 1CD7-1CD8 1CE2 1CE9 1CEB 1CED"),
    ("nko", .ofHex "60C 61B 61F FD3E-FD3F"),
    ("oldhungarian", .ofHex "205A 205D 2E31 2E41"),
    ("oldpermic", .ofHex "B7 300 306-308 313 483"),
    ("oldturkic", .ofHex "205A 2E30"),
    ("olduyghur", .ofHex "640 10AF2"),
    ("olonal", .ofHex "964-965"),
    ("oriya", .ofHex "951-952 964-965 1CDA 1CF2"),
    ("osage", .ofHex "301 304 30B 358"),
    ("phagspa", .ofHex "1802-1803 1805 202F 3002"),
    ("psalterpahlavi", .ofHex "640"),
    ("runic", .ofHex "16EB-16ED"),
    ("samaritan", .ofHex "2E31"),
    ("sharada", .ofHex "951 1CD7 1CD9 1CDC-1CDD 1CE0 1CEA 1CED A830-A835 A838"),
    ("shavian", .ofHex "B7"),
    ("sinhala", .ofHex "964-965 1CF2"),
    ("sogdian", .ofHex "640"),
    ("sunuwar", .ofHex "300-301 303 30D 310 32D 331"),
    ("sylotinagri", .ofHex "964-965 9E6-9EF"),
    ("syriac",
      .ofHex "303-304 307-308 30A 323-325 32D-32E 330-331 60C 61B-61C 61F 640 64B-655 670 1DF8
        1DFA"),
    ("tagalog", .ofHex "1735-1736"),
    ("tagbanwa", .ofHex "1735-1736"),
    ("taile", .ofHex "300-301 307-308 30C 1040-1049"),
    ("takri", .ofHex "964-965 A830-A839"),
    ("tamil", .ofHex "951-952 964-965 1CDA A8F3 11301 11303 1133B-1133C"),
    ("tangut", .ofHex "2FF0-2FFF 31EF"),
    ("telugu", .ofHex "951-952 964-965 1CD5-1CD6 1CD8 1CDA 1CF2"),
    ("thaana", .ofHex "60C 61B-61C 61F 660-669 FDF2 FDFD"),
    ("thai", .ofHex "2BC 2D7 303 331"),
    ("tibetan", .ofHex "3008-300B"),
    ("tifinagh", .ofHex "302 304 306-309 323"),
    ("tirhuta", .ofHex "951-952 964-965 1CD5 1CE2 1CF2 A830-A839"),
    ("todhri", .ofHex "301 304 307 311 313 35E"),
    ("toto", .ofHex "2BC"),
    ("tulutigalari", .ofHex "CE6-CEF 1CF2 1CF4 A830-A835 A8F1"),
    ("yezidi", .ofHex "60C 61B 61F 660-669"),
    ("yi", .ofHex "3001-3002 3008-3011 3014-301B 30FB FF61-FF65")]

def allShared : CodeRanges := .unions (shared.map (·.2))

/-- The characters that a script is written with. What some scripts share is no longer common to all
or inherited from any. -/
def writtenWith (s : Script) : CodeRanges :=
  if s.names.contains "common" ∨ s.names.contains "inherited" then s.members.diff allShared
  else s.members.union (.unions ((shared.filter fun (name, _) => s.names.contains name).map (·.2)))

end ConstraintDirectives.Text.Script
