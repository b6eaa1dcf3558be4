import SchemaDesign.Derivation.Draft

/-!
This module contains the derivation of relations. A relation of two entities becomes a reference if one of
them takes part at most once, and all others become a table of their own.
-/

namespace SchemaDesign

def Relation.isBetween (r : Relation) (a b : String) : Bool :=
  match r.participants with
  | [p, q] => (p.entity = a && q.entity = b) || (p.entity = b && q.entity = a)
  | _ => false

def ConceptualModel.needsQualifier (m : ConceptualModel) (a b : String) : Bool :=
  m.relations.countP (·.isBetween a b) > 1

namespace Derivation

def participantKey (m : ConceptualModel) (d : Draft) (relation entity : String) :
    Outcome (Option String) := do
  if !d.schema.hasTable entity then
    Outcome.reportIn relation (.unknownReference relation entity)
    return none
  else
    match m.keyName? entity with
    | some key => return some key
    | none =>
      Outcome.reportIn relation (.missingPrimaryKey entity)
      return none

def participantKeys (m : ConceptualModel) (d : Draft) (relation : String) :
    List Participant → Outcome (Option (List (Participant × String)))
  | [] => pure (some [])
  | p :: ps => do
    let key ← participantKey m d relation p.entity
    -- The others are looked up in any case, so that everything that is missing is reported.
    let keys ← participantKeys m d relation ps
    match key, keys with
    | some key, some keys => return some ((p, key) :: keys)
    | _, _ => return none

def keyedTable (name : String) (keys : List (Participant × String)) : Table :=
  keys.foldl step ⟨name, []⟩
where
  step (t : Table) (entry : Participant × String) : Table :=
    let (p, key) := entry
    let base :=
      if keys.countP (·.2 = key) > 1 then key ++ "_" ++ lowercaseName p.entity else key
    t.append (.keyReferring (t.freshName base none) p.entity key)

def placeReference (m : ConceptualModel) (d : Draft) (r : Relation) (holder target : Participant) :
    Outcome Draft := do
  match ← participantKey m d r.name target.entity with
  | none => return d
  | some key =>
    if d.schema.hasTable holder.entity then
      return d.modify holder.entity (extend key)
    else
      Outcome.reportIn r.name (.unknownReference r.name holder.entity)
      return d
where
  extend (key : String) (t : Table) : Table :=
    let role := lowercaseName r.name
    -- Several relations between the same two entities are told apart by their names.
    let base :=
      if m.needsQualifier holder.entity target.entity then key ++ "_" ++ role else key
    let column := Column.referring (t.freshName base (some role)) target.entity key
    appendAttributes (t.append column) r.attributes

def relationTable (m : ConceptualModel) (d : Draft) (r : Relation) : Outcome Draft := do
  if d.schema.hasTable r.name then
    Outcome.reportIn r.name (.duplicateName r.name)
    return d
  else
    match ← participantKeys m d r.name r.participants with
    | none => return d
    | some keys =>
      return (d.add (appendAttributes (keyedTable r.name keys) r.attributes)).represent r.name r.name

/--
The participant of a binary relation whose table refers to the other one, followed by the other one: the
one that takes part at most once, or if both do the one that has to. If that does not decide, it is the
first one. Two that may take part many times have none.
-/
def holderAndTarget? (a b : Participant) : Option (Participant × Participant) :=
  match a.cardinality.isMany, b.cardinality.isMany with
  | false, true => some (a, b)
  | true, false => some (b, a)
  | false, false =>
    if b.cardinality.isMandatory && !a.cardinality.isMandatory then some (b, a) else some (a, b)
  | true, true => none

def relation (m : ConceptualModel) (d : Draft) (r : Relation) : Outcome Draft :=
  match r.participants with
  | [] | [_] => do
    Outcome.reportIn r.name (.tooFewParticipants r.name r.participants.length)
    return d
  | [a, b] =>
    match holderAndTarget? a b with
    | some (holder, target) => placeReference m d r holder target
    | none => relationTable m d r
  | _ => relationTable m d r

def relations (m : ConceptualModel) (d : Draft) : Outcome Draft :=
  m.relations.foldlM (relation m) d

end Derivation

end SchemaDesign
