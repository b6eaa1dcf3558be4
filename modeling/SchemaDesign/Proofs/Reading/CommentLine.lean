import SchemaDesign.Proofs.Reading.Blockwise

namespace SchemaDesign

open Document

theorem read_insert_commentLine (line : CommentLine) (front back : String) (h : EndsLine front.toList) :
    ConceptualModel.read (front ++ String.ofList line.text ++ back) = ConceptualModel.read (front ++ back)
      ∧ LogicalModel.read (front ++ String.ofList line.text ++ back) = LogicalModel.read (front ++ back)
      ∧ PhysicalModel.read (front ++ String.ofList line.text ++ back) = PhysicalModel.read (front ++ back) := by
  have hsame : SameBlocks (blocks (front ++ String.ofList line.text ++ back)) (blocks (front ++ back)) := by
    have hinsert := sameBlocks_insert line h back.toList
    simpa only [String.ofList_append, String.ofList_toList] using hinsert
  refine ⟨ConceptualModel.read_eq_of_sameBlocks hsame, ?_, ?_⟩
  . simp only [LogicalModel.read, readTables_eq_of_sameBlocks byContent_table hsame]
  . simp only [PhysicalModel.read, readTables_eq_of_sameBlocks byContent_physicalTable hsame]

theorem read_insert_commentLine_nested :
    let line : CommentLine := ⟨[' ', '\t'], "--".toList, "\x7d , [ ( \x7b #".toList, by decide, by decide, by decide⟩
    let front := "TABLE A \x7b\n  id [PK] \x7b\n"
    let back := "  x [FK -> B.id]\n\x7d\nTABLE B \x7b id [PK] \x7d\n"
    EndsLine front.toList
      ∧ ConceptualModel.read (front ++ String.ofList line.text ++ back) = ConceptualModel.read (front ++ back)
      ∧ LogicalModel.read (front ++ String.ofList line.text ++ back) = LogicalModel.read (front ++ back)
      ∧ PhysicalModel.read (front ++ String.ofList line.text ++ back) = PhysicalModel.read (front ++ back) := by
  intro line front back
  have h : EndsLine front.toList := by
    unfold EndsLine
    decide
  exact ⟨h, read_insert_commentLine line front back h⟩

end SchemaDesign
