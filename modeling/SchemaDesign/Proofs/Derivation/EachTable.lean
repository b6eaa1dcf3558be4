import SchemaDesign.Proofs.Derivation.Flatten

namespace SchemaDesign.Derivation

variable {m : ConceptualModel} {settings : Settings} {d d' : Draft} {P : Table → Prop}

theorem forall_tables_relation {r : Relation} (hstep : RelationStep m d r d') (h : ∀ t ∈ d.schema.tables, P t)
    (hextend : ∀ holder target key, m.keyName? target.entity = some key →
      ∀ t, P t → P (placeReference.extend m r holder target key t))
    (hadd : ∀ keys, HasKeys m d r.participants keys → P (appendAttributes (keyedTable r.name keys) r.attributes)) :
    ∀ t ∈ d'.schema.tables, P t := by
  cases hstep with
  | skip => exact h
  | reference holder target key _ _ hkey =>
    exact LogicalModel.forall_tables_modify h (hextend holder target key hkey)
  | table keys _ _ hkeys => exact LogicalModel.forall_tables_add h (hadd keys hkeys)

theorem forall_tables_flatten {g : Inheritance} {u : Table} {key : String} {children : List String}
    (h : ∀ t ∈ d.schema.tables, P t)
    (hrefer : ∀ t, P t → P (referToParent g.parent key t))
    (hfold : ∀ children : List Table, (∀ c ∈ children, P c) → ∀ t, P t → P (foldInto children t))
    (hinherit : ∀ t, P t → P (inheritColumns u.columns t)) :
    ∀ t ∈ (flatten settings d g u key children).schema.tables, P t := by
  unfold flatten
  cases g.strategyIn settings with
  | tablePerClass => exact forall_tables_modifyEach h hrefer
  | singleTable =>
    have hchildren : ∀ c ∈ children.filterMap d.schema.table?, P c := by
      intro c hc
      obtain ⟨child, _, hchild⟩ := List.mem_filterMap.1 hc
      exact h c (LogicalModel.mem_of_table? hchild)
    intro t ht
    exact LogicalModel.forall_tables_modify h (hfold _ hchildren) t (List.mem_filter.1 ht).1
  | tablePerSubclass =>
    simp only [tablePerSubclass_eq]
    intro t ht
    exact forall_tables_modifyEach h hinherit t (List.mem_filter.1 ht).1

theorem forall_tables_associative {a : AssociativeEntity} (hstep : AssociativeStep m d a d')
    (h : ∀ t ∈ d.schema.tables, P t) (happend : ∀ t, P t → P (appendAttributes t a.attributes))
    (hrename : ∀ old t, P t → P (t.rename old a.name))
    (hadd : ∀ r keys, m.relation? a.relation = some r → HasKeys m d r.participants keys →
      P (keyedTable a.name keys)) :
    ∀ t ∈ d'.schema.tables, P t := by
  cases hstep with
  | skip => exact h
  | keep table => exact LogicalModel.forall_tables_modify h happend
  | rename table =>
    have hrenamed : ∀ t ∈ (d.schema.rename table a.name).tables, P t := by
      rw [LogicalModel.tables_rename, List.forall_mem_map]
      intro t ht
      exact hrename table t (h t ht)
    exact LogicalModel.forall_tables_modify hrenamed happend
  | add r keys hr _ _ hkeys =>
    exact LogicalModel.forall_tables_modify (LogicalModel.forall_tables_add h (hadd r keys hr hkeys)) happend

end SchemaDesign.Derivation
