import SchemaDesign.Physical.Reader
import SchemaDesign.Proofs.Ddl.Script
import SchemaDesign.Proofs.Document.Declaration
import SchemaDesign.Proofs.Document.OneLine

namespace SchemaDesign

open Text Document

theorem oneLine_of_isIdentifier {name : String} (h : isIdentifier name.toList = true) : OneLine name := by
  have hnewline : isWordChar '\n' = false := by decide +kernel
  intro hmem
  exact ne_of_isWordChar ((isIdentifier_iff.1 h).2 _ hmem) hnewline rfl

theorem oneLine_of_isBlockName {name : String} (h : IsBlockName name) : OneLine name := by
  have hnewline : isBlank '\n' = true := by decide
  intro hmem
  have hblank := h.word.2 '\n' hmem
  rw [hnewline] at hblank
  contradiction

namespace PhysicalColumn

variable {c : PhysicalColumn} {owner column : String} {item flag : List Char}

theorem OneLine.addConstraint (hc : c.OneLine) {constraint : Constraint} (h : SchemaDesign.OneLine constraint.sql) :
    (c.addConstraint constraint).OneLine := by
  refine ⟨hc.name, hc.sqlType, ?_, hc.target⟩
  intro k hk
  rw [PhysicalColumn.addConstraint, mem_addNew] at hk
  cases hk with
  | inl hold => exact hc.constraints k hold
  | inr hnew =>
    rw [hnew]
    exact h

theorem OneLine.applyFlag (hc : c.OneLine) (hflag : '\n' ∉ flag) {f : Flag}
    (h : (readFlag column flag).result = .ok f) : (c.applyFlag f).OneLine := by
  cases f with
  | primaryKey => exact ⟨hc.name, hc.sqlType, hc.constraints, hc.target⟩
  | foreignKey fk =>
    refine ⟨hc.name, hc.sqlType, hc.constraints, ?_⟩
    intro fk' hfk'
    cases hfk'
    have hfk := writable_of_readFlag h
    exact ⟨oneLine_of_isIdentifier hfk.table, oneLine_of_isIdentifier hfk.column⟩
  | notNull => exact hc.addConstraint (by decide)
  | unique => exact hc.addConstraint (by decide)
  | check expression =>
    apply hc.addConstraint
    have hexpression : SchemaDesign.OneLine expression := fun hmem => hflag (subset_of_readFlag h hmem)
    simp only [Constraint.sql, oneLine_append]
    exact ⟨⟨by decide, hexpression⟩, by decide⟩
  | derived | other => exact hc

theorem mem_of_mem_arrange {cs : List Constraint} {k : Constraint} (h : k ∈ Constraint.arrange cs) : k ∈ cs := by
  simp only [Constraint.arrange, List.mem_append, List.mem_filter] at h
  obtain (⟨h, _⟩ | ⟨h, _⟩) | ⟨h, _⟩ := h
  . exact h
  . exact h
  . exact h

theorem subset_of_cut {p : Char → Bool} {cs : List Char} {parts : List Char × List Char} (h : cut p cs = some parts) :
    parts.2 ⊆ cs := by
  induction cs generalizing parts with
  | nil => contradiction
  | cons c cs ih =>
    rw [cut] at h
    split at h
    . rw [← Option.some.inj h]
      exact List.subset_cons_self ..
    . obtain ⟨rest, hrest, rfl⟩ := Option.map_eq_some_iff.1 h
      have hafter : rest.2 ⊆ cs := ih hrest
      exact List.Subset.trans hafter (List.subset_cons_self ..)

theorem oneLine_read (hitem : '\n' ∉ item) : ∀ c ∈ (read owner item).value, c.OneLine := by
  intro c hc
  unfold read at hc
  split at hc
  . next head flags hparts =>
    obtain ⟨hhead, hflags⟩ := subset_of_readParts hparts
    have hrest : ((cut isBlank head).getD (head, [])).2 ⊆ item := by
      cases hcut : cut isBlank head with
      | none => exact List.nil_subset _
      | some parts => exact List.Subset.trans (subset_of_cut hcut) hhead
    generalize (cut isBlank head).getD (head, []) = parts at hc hrest
    obtain ⟨name, sqlType⟩ := parts
    simp only at hc
    split at hc
    . contradiction
    . next hidentifier =>
      split at hc
      . contradiction
      . simp only [Outcome.value_bind, Outcome.value_pure, Option.mem_some_iff] at hc
        have hname : SchemaDesign.OneLine (String.ofList name) := by
          apply oneLine_of_isIdentifier
          rw [String.toList_ofList]
          simpa using hidentifier
        have htype : SchemaDesign.OneLine (String.ofList (trim sqlType)) := by
          rw [SchemaDesign.OneLine, String.toList_ofList]
          intro hmem
          exact hitem (hrest (trim_subset hmem))
        have hread : (readFlags (String.ofList name) owner applyFlag
            ⟨String.ofList name, String.ofList (trim sqlType), false, none, []⟩ flags).value.OneLine := by
          apply readFlags_invariant PhysicalColumn.OneLine
          . exact ⟨hname, htype, by simp, by simp⟩
          . intro d f flag hflag hf hd
            exact hd.applyFlag (fun hmem => hitem (hflags flag hflag hmem)) hf
        rw [← hc]
        refine ⟨hread.name, hread.sqlType, ?_, hread.target⟩
        intro k hk
        exact hread.constraints k (mem_of_mem_arrange hk)
  . contradiction

end PhysicalColumn

theorem PhysicalModel.oneLine_read (text : String) : ∀ t ∈ (PhysicalModel.read text).value.tables, t.OneLine := by
  apply forall_readTables
  intro b hb
  refine ⟨oneLine_of_isBlockName hb, ?_⟩
  apply forall_readDistinct
  intro item hitem
  exact PhysicalColumn.oneLine_read (notMem_newline_of_mem_items hitem)

end SchemaDesign
