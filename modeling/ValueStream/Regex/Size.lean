import ValueStream.Regex.Basic

/-!
# The size of a pattern

Counted repetitions are written out before a pattern is matched, so a short text can stand for a
very large pattern. Its size is the number of bytes that an automaton over the bytes of UTF-8 takes
for it: 32 for a state and 8 for an arrow, as many times as the pattern is repeated. Sets beyond
ASCII need several states, and the properties of characters many; theirs are given as numbers. A
pattern may take ten mebibytes.

The numbers are estimates, so a pattern whose size comes near the limit may be refused although it
would just fit, or taken although it would just not. The patterns in doubt repeat a set beyond ASCII
a hundred times and more: a property (`\p{L}` is taken up to 348 times, `\w` up to 209 times), a
range beyond ASCII, which counts the same whatever its bounds, or a set that is combined of others
or closed under case, whose parts are counted one by one even where they could share states. In a
pattern over ASCII alone only the states that join the parts of an alternative or a repetition are
estimated.
-/

namespace ValueStream

/-- What a set adds to a state, as the number of bytes of the arrows and further states. -/
def CharSet.weight : CharSet → Nat
  | none => 0
  | range _ greatest => if greatest < 128 then 8 else 136
  | digit => 5058
  | word => 49878
  | blank => 616
  | outside digit => 12694
  | outside word => 46503
  | outside blank => 1860
  | alphabetic => 46000
  | lowercase | uppercase => 40000
  | categories cs => 6000 * cs.length
  | outside s => s.weight + 936
  | union s t | both s t => s.weight + t.weight
  | anyCase s => s.weight + 200
  | anyLatinCase s => s.weight + 8

namespace Regex

/-- The size of the automaton, in bytes. -/
def size : Regex → Nat
  | empty | look _ => 32
  | char (.range least greatest) =>
    if least = greatest then 32 * (Char.ofNat least).utf8Size
    else 64 + (CharSet.range least greatest).weight
  | char s => 64 + s.weight
  | seq r s => r.size + s.size
  | alt r s => r.size + s.size + 36
  | repeated r least greatest =>
    match r.tries least greatest with
    | (least, none) => max least 1 * r.size + 36
    | (least, some greatest) => least * r.size + (greatest - least) * (r.size + 40) + 32
  | group _ r => r.size + 64

/-- The greatest size of a pattern. -/
def sizeLimit : Nat := 10 * 1024 * 1024

end Regex

end ValueStream
