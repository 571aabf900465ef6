import RegexNfa.SelfTest.Basic

namespace RegexNfa.SelfTest

/-- The multiples of three in binary. -/
def nested : String := "(0|(1(01*(00)*0)*1)*)*"

def table : List Case :=
  [⟨"ab", "a", .reject⟩,
    ⟨"ab", "", .reject⟩,
    ⟨"ab", "aa", .reject⟩,
    ⟨"ab", "aaa", .reject⟩,
    ⟨"ab", "ab", .accept⟩,
    ⟨"ab", "b", .reject⟩,
    ⟨"ab", "bb", .reject⟩,
    ⟨"a", "a", .accept⟩,
    ⟨"a", "", .reject⟩,
    ⟨"a", "aa", .reject⟩,
    ⟨"a", "aaa", .reject⟩,
    ⟨"a", "ab", .reject⟩,
    ⟨"a", "b", .reject⟩,
    ⟨"a", "bb", .reject⟩,
    ⟨"a*", "", .accept⟩,
    ⟨"a*", "a", .accept⟩,
    ⟨"a*", "aa", .accept⟩,
    ⟨"a*", "aaa", .accept⟩,
    ⟨"a*", "ab", .reject⟩,
    ⟨"a*", "b", .reject⟩,
    ⟨"a*", "bb", .reject⟩,
    ⟨"a*b", "", .reject⟩,
    ⟨"a*b", "a", .reject⟩,
    ⟨"a*b", "aa", .reject⟩,
    ⟨"a*b", "aaa", .reject⟩,
    ⟨"a*b", "ab", .accept⟩,
    ⟨"a*b", "b", .accept⟩,
    ⟨"a*b", "bb", .reject⟩,
    ⟨"a*b", "aaaaab", .accept⟩,
    ⟨"a|b", "", .reject⟩,
    ⟨"a|b", "a", .accept⟩,
    ⟨"a|b", "aa", .reject⟩,
    ⟨"a|b", "aaa", .reject⟩,
    ⟨"a|b", "ab", .reject⟩,
    ⟨"a|b", "b", .accept⟩,
    ⟨"a*|b", "", .accept⟩,
    ⟨"a*|b", "a", .accept⟩,
    ⟨"a*|b", "aaa", .accept⟩,
    ⟨"a*|b", "b", .accept⟩,
    ⟨"a*|b", "ba", .reject⟩,
    ⟨"a*|b", "ab", .reject⟩,
    ⟨"a(ab)*c", "aababababc", .accept⟩,
    ⟨"a(ab)*c", "aababababcc", .reject⟩,
    ⟨"a(ab)*c", "ac", .accept⟩,
    ⟨"a(ab)*c", "", .reject⟩,
    ⟨"a(ab)*c", "c", .reject⟩,
    ⟨"(a*)|b", "", .accept⟩,
    ⟨"(a*)|b", "a", .accept⟩,
    ⟨"(a*)|b", "aa", .accept⟩,
    ⟨"(a*)|b", "aaa", .accept⟩,
    ⟨"(a*)|b", "ab", .reject⟩,
    ⟨"(a*)|b", "b", .accept⟩,
    ⟨"(a*)|b", "bb", .reject⟩,
    ⟨"((a*b)*c)|b", "aaaaabaabc", .accept⟩,
    ⟨"((a*b)*c)|b", "c", .accept⟩,
    ⟨"((a*b)*c)|b", "ca", .reject⟩,
    ⟨"((a*b)*c)|b", "cb", .reject⟩,
    ⟨"((a*b)*c)|b", "cc", .reject⟩,
    ⟨"((a*b)*c)|b", "", .reject⟩,
    ⟨"a*b*c*", "abb", .accept⟩,
    ⟨"a*b*c*", "aaaaabb", .accept⟩,
    ⟨"a*b*c*", "aaaaac", .accept⟩,
    ⟨"a*b*c*", "aaaaabbccccc", .accept⟩,
    ⟨"a*b*c*", "ccc", .accept⟩,
    ⟨"(a*)", "a", .accept⟩,
    ⟨"(a*)", "aaa", .accept⟩,
    ⟨"(a*)b", "aaab", .accept⟩,
    ⟨"b(a*)", "b", .accept⟩,
    ⟨"b(a*)", "ba", .accept⟩,
    ⟨"()", "", .accept⟩,
    ⟨"()", "a", .reject⟩,
    ⟨"(c|b(a*))*", "cccbbaaaaabab", .accept⟩,
    ⟨"(c|b(a*))*", "cccbbaaaaababc", .accept⟩,
    ⟨"(c|(a))*", "caaaaaccc", .accept⟩,
    ⟨nested, "", .accept⟩,
    ⟨nested, "0", .accept⟩,
    ⟨nested, "00", .accept⟩,
    ⟨nested, "11", .accept⟩,
    ⟨nested, "000", .accept⟩,
    ⟨nested, "011", .accept⟩,
    ⟨nested, "110", .accept⟩,
    ⟨nested, "0000", .accept⟩,
    ⟨nested, "0011", .accept⟩,
    ⟨nested, "0110", .accept⟩,
    ⟨nested, "1001", .accept⟩,
    ⟨nested, "1100", .accept⟩,
    ⟨nested, "1111", .accept⟩,
    ⟨nested, "00000", .accept⟩,
    ⟨nested, "00001", .reject⟩,
    ⟨nested, "0011101", .reject⟩,
    ⟨nested, "1011100000011100000110111000000111000001", .accept⟩,
    ⟨"((a*)", "", .invalid⟩,
    ⟨"(a*))", "", .invalid⟩,
    ⟨"|a", "", .invalid⟩,
    ⟨"|(a)", "", .invalid⟩,
    ⟨"a**", "aaaa", .invalid⟩,
    ⟨"a**", "", .invalid⟩,
    ⟨"a**", "b", .invalid⟩,
    ⟨"a||b", "a", .invalid⟩,
    ⟨"a||b", "b", .invalid⟩]

end RegexNfa.SelfTest
