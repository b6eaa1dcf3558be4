import SchemaDesign.Ddl.Script
import SchemaDesign.Proofs.Text.Identifier

/-!
This module contains that spelling a type for a dialect is done once and for all. A dialect puts other names in place of
some, and none of those that it puts is one that it would replace again.
-/

namespace SchemaDesign

open Text

theorem baseType_append (name : String) {parameters : List Char} (h : ∀ c ∈ parameters.head?, c = '(') :
    baseType (name ++ String.ofList parameters) = baseType name := by
  have hstop : ∀ c ∈ parameters.head?, decide (c ≠ '(') = false := by simpa using h
  rw [baseType, baseType, typeParts, typeParts, String.toList_append, String.toList_ofList,
    takeWhile_append_of_head? name.toList hstop]

namespace Dialect

variable {d : Dialect} {name sqlType : String}

def ownNames (d : Dialect) : List String :=
  if d.usesBackticks then ["TINYINT(1)", "DATETIME", "INT", "BIGINT", "DOUBLE"]
  else ["DOUBLE PRECISION", "TIMESTAMP", "INTEGER"]

theorem mem_ownNames {own : String} (h : d.typeName? name = some own) : own ∈ d.ownNames := by
  unfold typeName? at h
  unfold ownNames
  split at h
  all_goals
    split at h
    all_goals simp_all

/--
A type that the dialect spells as it is written: no blanks stand at its ends, and the dialect has another name for it
neither with its parameters nor without them.
-/
structure Settled (d : Dialect) (sqlType : String) : Prop where
  trimmed : Trimmed sqlType.toList
  whole : (!d.usesBackticks && spells sqlType.toList "TINYINT(1)") = false
  name : d.typeName? (baseType sqlType) = none

instance (d : Dialect) (sqlType : String) : Decidable (d.Settled sqlType) :=
  decidable_of_iff
    (Trimmed sqlType.toList ∧ (!d.usesBackticks && spells sqlType.toList "TINYINT(1)") = false
      ∧ d.typeName? (baseType sqlType) = none)
    ⟨fun h => ⟨h.1, h.2.1, h.2.2⟩, fun h => ⟨h.1, h.2, h.3⟩⟩

theorem settled_boolean (hd : d.usesBackticks = false) : d.Settled "BOOLEAN" := by
  cases d with
  | mysql | mariadb => contradiction
  | postgresql => decide

theorem settled_append {own : String} (hown : own ∈ d.ownNames) {parameters : List Char}
    (hfirst : ∀ c ∈ parameters.head?, c = '(') (hlast : ∀ c ∈ parameters.getLast?, isBlank c = false) :
    d.Settled (own ++ String.ofList parameters) := by
  have htrimmed : ∀ own ∈ d.ownNames, own.toList ≠ [] ∧ Trimmed own.toList := by cases d <;> decide
  -- No parameters make such a name the type that is replaced as a whole, since it does not even begin like that one.
  have hwhole : ∀ own ∈ d.ownNames, d.usesBackticks = false → ¬upcase own.toList <+: "TINYINT(1)".toList := by
    cases d <;> decide
  have hname : ∀ own ∈ d.ownNames, d.typeName? (baseType own) = none := by cases d <;> decide
  constructor
  . rw [String.toList_append, String.toList_ofList]
    exact (htrimmed own hown).2.append_right (htrimmed own hown).1 hlast
  . cases hd : d.usesBackticks with
    | true => rfl
    | false =>
      rw [String.toList_append, String.toList_ofList]
      exact spells_append_eq_false (hwhole own hown hd) parameters
  . rw [baseType_append own hfirst]
    exact hname own hown

theorem settled_mapType (d : Dialect) (sqlType : String) : d.Settled (d.mapType sqlType) := by
  have htrimmed : Trimmed (trim sqlType.toList) := trimmed_trim _
  unfold mapType
  simp only [typeParts]
  split
  . next hwhole =>
    rw [Bool.and_eq_true, Bool.not_eq_true'] at hwhole
    exact settled_boolean hwhole.1
  . next hwhole =>
    split
    . next own hown =>
      apply settled_append (mem_ownNames hown)
      . intro c hc
        simpa using eq_false_of_mem_head?_dropWhile (trim sqlType.toList) c hc
      . exact htrimmed.last_of_suffix (List.dropWhile_suffix _)
    . next hname =>
      constructor
      . rwa [String.toList_ofList]
      . rwa [String.toList_ofList, ← Bool.not_eq_true]
      . rwa [baseType, typeParts, String.toList_ofList]

theorem mapType_eq_self (h : d.Settled sqlType) : d.mapType sqlType = sqlType := by
  have hname := h.name
  rw [baseType, typeParts] at hname
  unfold mapType
  simp only [trim_eq_self h.trimmed, h.whole, typeParts, hname, String.ofList_toList]
  rfl

theorem mapType_settles (d : Dialect) (sqlType : String) :
    d.mapType (d.mapType sqlType) = d.mapType sqlType ∧ (d.mapType sqlType = sqlType ↔ d.Settled sqlType) := by
  refine ⟨mapType_eq_self (settled_mapType d sqlType), ?_, mapType_eq_self⟩
  intro h
  rw [← h]
  exact settled_mapType d sqlType

example : mysql.mapType " boolean (3) " = "TINYINT(1)(3)" := by
  decide

end Dialect

end SchemaDesign
