import SchemaDesign.Conceptual.Reader

namespace SchemaDesign.ConceptualModel

def requireEntity (m : ConceptualModel) (source target : String) : Outcome Unit :=
  Outcome.reportIf (m.entity? target).isNone source (.unknownReference source target)

def checkEntity (m : ConceptualModel) (before : List Entity) (e : Entity) : Outcome Unit := do
  let keys := e.attributes.countP (·.isKey)
  Outcome.reportIf (before.any (·.name = e.name)) e.name (.duplicateName e.name)
  Outcome.reportIf (keys = 0 && !m.isChild e.name) e.name (.missingPrimaryKey e.name)
  Outcome.reportIf (keys > 1) e.name (.multiplePrimaryKeys e.name keys)

def checkRelation (m : ConceptualModel) (before : List Relation) (r : Relation) : Outcome Unit := do
  Outcome.reportIf (before.any (·.name = r.name)) r.name (.duplicateName r.name)
  Outcome.reportIf (r.participants.length < 2) r.name
    (.tooFewParticipants r.name r.participants.length)
  Outcome.each (fun p => m.requireEntity r.name p.entity) r.participants

def checkInheritance (m : ConceptualModel) (g : Inheritance) : Outcome Unit :=
  Outcome.each (m.requireEntity g.name) (g.parent :: g.children)

def checkAssociative (m : ConceptualModel) (a : AssociativeEntity) : Outcome Unit :=
  Outcome.reportIf (m.relation? a.relation).isNone a.name (.unknownReference a.name a.relation)

def check (m : ConceptualModel) : Outcome Unit := do
  Outcome.eachAfter m.checkEntity m.entities
  Outcome.eachAfter m.checkRelation m.relations
  Outcome.each m.checkInheritance m.inheritances
  Outcome.each m.checkAssociative m.associatives
  m.warnOfOrphans

end SchemaDesign.ConceptualModel
