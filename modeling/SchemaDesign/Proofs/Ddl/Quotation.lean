import SchemaDesign.Dialect

/-!
This module contains the reading of quoted identifiers: what stands between two quote characters, where a doubled one
stands for one character of the identifier. Whatever an identifier consists of, its quotation is read to its end and no
further.
-/

namespace SchemaDesign

/--
The text up to the first quote character that stands alone, with the doubled ones before it taken for one each, and
what follows that character.
-/
def readQuoted (q : Char) : List Char → Option (List Char × List Char)
  | [] => none
  | [c] => if c = q then some ([], []) else none
  | c :: c' :: cs =>
    if c = q then
      if c' = q then (readQuoted q cs).map fun (name, rest) => (q :: name, rest) else some ([], c' :: cs)
    else (readQuoted q (c' :: cs)).map fun (name, rest) => (c :: name, rest)

namespace Dialect

def unquote? (d : Dialect) : List Char → Option (String × List Char)
  | [] => none
  | c :: cs =>
    if c = d.quoteChar then (readQuoted d.quoteChar cs).map fun (name, rest) => (String.ofList name, rest) else none

end Dialect

section Quotation

variable {q : Char} {text name rest : List Char}

theorem readQuoted_cons_of_ne {c : Char} (hc : c ≠ q) (cs : List Char) :
    readQuoted q (c :: cs) = (readQuoted q cs).map fun (name, rest) => (c :: name, rest) := by
  cases cs with
  | nil => simp [readQuoted, hc]
  | cons c' cs => rw [readQuoted, if_neg hc]

theorem readQuoted_end (hrest : ∀ c ∈ rest.head?, c ≠ q) : readQuoted q (q :: rest) = some ([], rest) := by
  cases rest with
  | nil => simp [readQuoted]
  | cons c rest =>
    have hc : c ≠ q := hrest c rfl
    simp [readQuoted, hc]

theorem readQuoted_append (name rest : List Char) :
    readQuoted q (name.flatMap (fun c => if c = q then [q, q] else [c]) ++ rest)
      =
    (readQuoted q rest).map fun (found, rest') => (name ++ found, rest') := by
  induction name with
  | nil => simp
  | cons c name ih =>
    -- A quote character of the identifier is read in one step, together with its double.
    rw [List.flatMap_cons, List.append_assoc]
    split
    . next hc => simp [readQuoted, ih, hc, Function.comp_def]
    . next hc =>
      rw [List.singleton_append, readQuoted_cons_of_ne hc, ih, Option.map_map]
      rfl

theorem exists_of_map_cons {read : Option (List Char × List Char)} {c : Char}
    (h : read.map (fun (name, rest) => (c :: name, rest)) = some (name, rest)) :
    ∃ found, read = some (found, rest) ∧ name = c :: found := by
  obtain ⟨⟨found, rest'⟩, hread, heq⟩ := Option.map_eq_some_iff.1 h
  obtain ⟨rfl, rfl⟩ := Prod.mk.inj heq
  exact ⟨found, hread, rfl⟩

theorem eq_of_readQuoted (h : readQuoted q text = some (name, rest)) :
    text = name.flatMap (fun c => if c = q then [q, q] else [c]) ++ q :: rest ∧ ∀ c ∈ rest.head?, c ≠ q := by
  fun_induction readQuoted q text generalizing name with
  | case1 => contradiction
  | case2 =>
    obtain ⟨rfl, rfl⟩ := Prod.mk.inj (Option.some.inj h)
    simp
  | case3 => contradiction
  | case4 cs ih =>
    obtain ⟨found, hread, rfl⟩ := exists_of_map_cons h
    obtain ⟨rfl, hrest⟩ := ih hread
    exact ⟨by simp, hrest⟩
  | case5 c' cs hc' =>
    obtain ⟨rfl, rfl⟩ := Prod.mk.inj (Option.some.inj h)
    exact ⟨rfl, by simpa using hc'⟩
  | case6 c c' cs hc ih =>
    obtain ⟨found, hread, rfl⟩ := exists_of_map_cons h
    obtain ⟨heq, hrest⟩ := ih hread
    exact ⟨by simp [heq, hc], hrest⟩

theorem suffix_of_readQuoted (h : readQuoted q (q :: text) = some (name, rest)) : rest <:+ text := by
  have hsuffix : q :: rest <:+ q :: text := by
    rw [(eq_of_readQuoted h).1]
    exact List.suffix_append ..
  rcases List.suffix_cons_iff.1 hsuffix with heq | htail
  . have hrest : rest = text := (List.cons.inj heq).2
    exact hrest ▸ List.suffix_rfl
  . exact (List.suffix_cons q rest).trans htail

end Quotation

namespace Dialect

variable {d : Dialect}

theorem unquote?_quote_append (d : Dialect) (name : String) (rest : List Char) :
    d.unquote? ((d.quote name).toList ++ rest)
      =
    (readQuoted d.quoteChar (d.quoteChar :: rest)).map fun (found, rest') =>
      (String.ofList (name.toList ++ found), rest') := by
  simp [quote, unquote?, readQuoted_append, Function.comp_def]

theorem unquote?_quote (d : Dialect) (name : String) {rest : List Char} (hrest : ∀ c ∈ rest.head?, c ≠ d.quoteChar) :
    d.unquote? ((d.quote name).toList ++ rest) = some (name, rest) := by
  rw [unquote?_quote_append, readQuoted_end hrest]
  simp

theorem unquote?_eq_some_iff {text : List Char} {name : String} {rest : List Char} :
    d.unquote? text = some (name, rest)
      ↔ text = (d.quote name).toList ++ rest ∧ ∀ c ∈ rest.head?, c ≠ d.quoteChar := by
  constructor
  . intro h
    cases text with
    | nil => contradiction
    | cons c text =>
      rw [unquote?] at h
      split at h
      . next hc =>
        obtain ⟨⟨found, rest'⟩, hread, heq⟩ := Option.map_eq_some_iff.1 h
        obtain ⟨rfl, rfl⟩ := Prod.mk.inj heq
        obtain ⟨rfl, hrest⟩ := eq_of_readQuoted hread
        exact ⟨by simp [quote, hc], hrest⟩
      . contradiction
  . rintro ⟨rfl, hrest⟩
    exact unquote?_quote d name hrest

theorem suffix_of_unquote?_quote {name found : String} {rest rest' : List Char}
    (h : d.unquote? ((d.quote name).toList ++ rest) = some (found, rest')) :
    name.toList <+: found.toList ∧ rest' <:+ rest := by
  rw [unquote?_quote_append] at h
  obtain ⟨⟨more, rest''⟩, hread, heq⟩ := Option.map_eq_some_iff.1 h
  obtain ⟨rfl, rfl⟩ := Prod.mk.inj heq
  rw [String.toList_ofList]
  exact ⟨List.prefix_append .., suffix_of_readQuoted hread⟩

theorem quote_injective (d : Dialect) : Function.Injective d.quote := by
  intro name other h
  have hread : ∀ name, d.unquote? ((d.quote name).toList ++ []) = some (name, []) := by
    intro name
    exact d.unquote?_quote name (by simp)
  have hname := hread name
  rw [h, hread other] at hname
  exact (Prod.mk.inj (Option.some.inj hname)).1.symm

theorem quote_selfDelimiting (d : Dialect) :
    (∀ (text : List Char) (name : String) (rest : List Char),
      d.unquote? text = some (name, rest)
        ↔ text = (d.quote name).toList ++ rest ∧ ∀ c ∈ rest.head?, c ≠ d.quoteChar)
      ∧ (∀ (name found : String) (rest rest' : List Char),
        d.unquote? ((d.quote name).toList ++ rest) = some (found, rest') →
          name.toList <+: found.toList ∧ rest' <:+ rest)
      ∧ Function.Injective d.quote := by
  refine ⟨?_, ?_, quote_injective d⟩
  . intro text name rest
    exact unquote?_eq_some_iff
  . intro name found rest rest'
    exact suffix_of_unquote?_quote

theorem quote_selfDelimiting_crafted :
    (∀ c ∈ " INT".toList.head?, c ≠ postgresql.quoteChar)
      ∧ postgresql.unquote? ((postgresql.quote "\"); DROP \"\"TABLE\n\"").toList ++ " INT".toList)
        = some ("\"); DROP \"\"TABLE\n\"", " INT".toList)
      ∧ mysql.unquote? ((mysql.quote "\x60a").toList ++ "\x60b\x60 INT".toList)
        = some ("\x60a\x60b", " INT".toList)
      ∧ "\x60a".toList <+: "\x60a\x60b".toList
      ∧ " INT".toList <:+ "\x60b\x60 INT".toList := by
  have hspace : ∀ c ∈ " INT".toList.head?, c ≠ postgresql.quoteChar := by decide
  have hlonger : mysql.unquote? ((mysql.quote "\x60a").toList ++ "\x60b\x60 INT".toList)
      = some ("\x60a\x60b", " INT".toList) := by decide
  exact ⟨hspace, ((quote_selfDelimiting postgresql).1 _ _ _).2 ⟨rfl, hspace⟩, hlonger,
    (quote_selfDelimiting mysql).2.1 _ _ _ _ hlonger⟩

end Dialect

end SchemaDesign
