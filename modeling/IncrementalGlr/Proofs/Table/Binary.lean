import Mathlib
import IncrementalGlr.Proofs.Codec.Basic
import IncrementalGlr.Proofs.Table.Header
import IncrementalGlr.Table.Binary

/-!
Stored tables are read as they were written.

A table of this development holds natural numbers; where it is stored, a number has a width.
`TableData.Storable` says that every number fits its width. The widths are those of the reader, and
each record comes with the lemma that its reader takes exactly what its writer wrote, which follows the
fields one by one. With the header that says how long the body is and what it sums up to, `ofBytes`
gives back the table.
-/
namespace IncrementalGlr

open Codec

/-! ## Numbers that fit -/

structure Child.Storable (c : Child) : Prop where
  symbol : c.symbol < 2 ^ 16
  field : ∀ f ∈ c.field, 0 < f ∧ f < 2 ^ 16
  renamed : ∀ s ∈ c.renamed, s < 2 ^ 16

structure Production.Storable (p : Production) : Prop where
  lhs : p.lhs < 2 ^ 16
  children : ∀ c ∈ p.children, c.Storable
  precedence : -2 ^ 31 ≤ p.precedence ∧ p.precedence < 2 ^ 31
  dynamicPrecedence : -2 ^ 31 ≤ p.dynamicPrecedence ∧ p.dynamicPrecedence < 2 ^ 31

def Action.Storable : Action → Prop
  | shift state => state < 2 ^ 16
  | reduce production => production < 2 ^ 16
  | shiftExtra | accept => True

def Matcher.Storable : Matcher → Prop
  | external index => index < 2 ^ 16
  | endOfText | literal _ | pattern _ => True

structure LexTable.Storable (l : LexTable) : Prop where
  tokens : ∀ t ∈ l.tokens, t.matcher.Storable
  word : ∀ s ∈ l.word, s < 2 ^ 16
  keywords : ∀ s ∈ l.keywords, s < 2 ^ 16

/-- Every number of a table fits the width it is stored with. -/
structure TableData.Storable (d : TableData) : Prop where
  terminalCount : d.terminalCount < 2 ^ 16
  nonterminalCount : d.nonterminalCount < 2 ^ 16
  externalCount : d.externalCount < 2 ^ 16
  productions : ∀ p ∈ d.productions, p.Storable
  stateCount : d.stateCount < 2 ^ 16
  actions : ∀ l ∈ d.actionLists, ∀ a ∈ l, a.Storable
  actionIndex : ∀ i ∈ d.actionIndex, i < 2 ^ 16
  gotoIndex : ∀ s ∈ d.gotoIndex, s < 2 ^ 16
  startSymbol : d.startSymbol < 2 ^ 16
  lex : d.lex.Storable
  recovery : ∀ s ∈ d.recovery, s < 2 ^ 16
  conflicts : ∀ l ∈ d.conflicts, ∀ s ∈ l, s < 2 ^ 16

/-! ## Records -/

theorem reads_variant {α : Type} [BEq α] [LawfulBEq α] {all : List α} {x : α} (hmem : x ∈ all)
    (hsize : all.length ≤ 2 ^ 32) : Reads (readVariant all) (writeNat (all.idxOf x)) x := by
  have hfound := List.idxOf_lt_length_of_mem hmem
  rw [← List.append_nil (writeNat _)]
  apply Reads.bind (.nat (by omega))
  rw [List.getElem?_eq_getElem hfound, List.getElem_idxOf hfound]
  exact .pure x

theorem SymbolInfo.reads (s : SymbolInfo) : Reads SymbolInfo.read s.encode s := by
  simp only [encode, List.append_assoc]
  apply Reads.bind (.text s.name)
  apply Reads.bind (reads_variant (by cases s.kind <;> decide) (by decide))
  apply Reads.bind (.bool s.named)
  apply Reads.bind (.bool s.visible)
  apply Reads.bind (.bool s.extra)
  exact (Reads.bool s.supertype).map

theorem reads_fieldId {f : FieldId} (hpos : 0 < f) (hfit : f < 2 ^ 16) :
    Reads readFieldId (writeNat f) f := by
  rw [← List.append_nil (writeNat f)]
  apply Reads.bind (.nat hfit)
  rw [if_neg (Nat.ne_of_gt hpos)]
  exact .pure f

namespace Child

theorem Storable.reads {c : Child} (h : c.Storable) : Reads Child.read c.encode c := by
  simp only [encode, List.append_assoc]
  apply Reads.bind (.nat h.symbol)
  apply Reads.bind (.option fun f hf => reads_fieldId (h.field f hf).1 (h.field f hf).2)
  exact (Reads.option fun s hs => .nat (h.renamed s hs)).map

theorem length_encode_pos (c : Child) : 0 < c.encode.length := by
  have := length_writeNat_pos c.symbol
  simp only [encode, List.length_append]
  omega

end Child

namespace Production

theorem Storable.reads {p : Production} (h : p.Storable) : Reads Production.read p.encode p := by
  simp only [encode, List.append_assoc]
  apply Reads.bind (.nat h.lhs)
  apply Reads.bind (.list Child.length_encode_pos fun c hc => (h.children c hc).reads)
  apply Reads.bind (.int h.precedence.1 h.precedence.2)
  apply Reads.bind (reads_variant (by cases p.associativity <;> decide) (by decide))
  exact (Reads.int h.dynamicPrecedence.1 h.dynamicPrecedence.2).map

theorem length_encode_pos (p : Production) : 0 < p.encode.length := by
  have := length_writeNat_pos p.lhs
  simp only [encode, List.length_append]
  omega

end Production

namespace Action

theorem Storable.reads {a : Action} (h : a.Storable) : Reads Action.read a.encode a := by
  cases a with
  | shift state =>
    apply Reads.bind_cons (reads_tag (b := 0) (by decide))
    exact (Reads.nat h).map
  | shiftExtra =>
    apply Reads.bind_cons (reads_tag (b := 1) (by decide))
    exact .pure _
  | reduce production =>
    apply Reads.bind_cons (reads_tag (b := 2) (by decide))
    exact (Reads.nat h).map
  | accept =>
    apply Reads.bind_cons (reads_tag (b := 3) (by decide))
    exact .pure _

theorem length_encode_pos (a : Action) : 0 < a.encode.length := by
  cases a <;> exact Nat.succ_pos _

end Action

theorem StoredPattern.reads (p : StoredPattern) : Reads StoredPattern.read p.encode p := by
  rw [encode]
  apply Reads.bind (.text p.source)
  exact (Reads.bytes p.automaton).map

theorem Matcher.Storable.reads {m : Matcher} (h : m.Storable) : Reads Matcher.read m.encode m := by
  cases m with
  | endOfText =>
    apply Reads.bind_cons (reads_tag (b := 0) (by decide))
    exact .pure _
  | literal text =>
    apply Reads.bind_cons (reads_tag (b := 1) (by decide))
    exact (Reads.text text).map
  | pattern p =>
    apply Reads.bind_cons (reads_tag (b := 2) (by decide))
    exact p.reads.map
  | external index =>
    apply Reads.bind_cons (reads_tag (b := 3) (by decide))
    exact (Reads.nat h).map

namespace TokenEntry

theorem reads {t : TokenEntry} (h : t.matcher.Storable) : Reads TokenEntry.read t.encode t := by
  rw [encode]
  apply Reads.bind h.reads
  exact (Reads.bool t.immediate).map

theorem length_encode_pos (t : TokenEntry) : 0 < t.encode.length := by
  rw [encode, List.length_append, writeBool, List.length_singleton]
  omega

end TokenEntry

theorem SymbolInfo.length_encode_pos (s : SymbolInfo) : 0 < s.encode.length := by
  have := length_writeText_pos s.name
  simp only [encode, List.length_append]
  omega

/-- A row of numbers that fit. -/
theorem reads_numbers {ns : List Nat} (h : ∀ n ∈ ns, n < 2 ^ 16) :
    Reads (readList (readNat 16)) (writeList writeNat ns) ns :=
  .list length_writeNat_pos fun n hn => .nat (h n hn)

theorem LexTable.Storable.reads {l : LexTable} (h : l.Storable) :
    Reads LexTable.read l.encode l := by
  simp only [encode, List.append_assoc]
  apply Reads.bind (.list TokenEntry.length_encode_pos fun t ht =>
    TokenEntry.reads (h.tokens t (Array.mem_toList_iff.mp ht)))
  apply Reads.bind (.option fun p _ => p.reads)
  apply Reads.bind (.option fun s hs => .nat (h.word s hs))
  exact (reads_numbers h.keywords).map

namespace TableData

theorem Storable.reads {d : TableData} (h : d.Storable) : Reads TableData.read d.encodeBody d := by
  simp only [encodeBody, List.append_assoc]
  apply Reads.bind (.text d.name)
  apply Reads.bind (.list SymbolInfo.length_encode_pos fun s _ => s.reads)
  apply Reads.bind (.nat h.terminalCount)
  apply Reads.bind (.nat h.nonterminalCount)
  apply Reads.bind (.nat h.externalCount)
  apply Reads.bind (.list length_writeText_pos fun s _ => .text s)
  apply Reads.bind (.list Production.length_encode_pos fun p hp =>
    (h.productions p (Array.mem_toList_iff.mp hp)).reads)
  apply Reads.bind (.nat h.stateCount)
  apply Reads.bind (.list length_writeList_pos fun l hl =>
    .list Action.length_encode_pos fun a ha => (h.actions l (Array.mem_toList_iff.mp hl) a ha).reads)
  apply Reads.bind (reads_numbers fun i hi => h.actionIndex i (Array.mem_toList_iff.mp hi))
  apply Reads.bind (reads_numbers fun s hs => h.gotoIndex s (Array.mem_toList_iff.mp hs))
  apply Reads.bind (.nat h.startSymbol)
  apply Reads.bind h.lex.reads
  apply Reads.bind (reads_numbers h.recovery)
  exact (Reads.list length_writeList_pos fun l hl => reads_numbers (h.conflicts l hl)).map

/-! ## Headers of tables -/

/-- The seven counts that a header repeats, in their order. -/
def counts (d : TableData) : List Nat :=
  [d.symbols.size, d.terminalCount, d.externalCount, d.fields.size, d.productions.size,
    d.stateCount, d.actionLists.size]

end TableData

namespace Header

/-- The seven counts, in their order. -/
def counts (h : Header) : List UInt16 :=
  [h.symbolCount, h.terminalCount, h.externalCount, h.fieldCount, h.productionCount,
    h.stateCount, h.actionListCount]

/-- A header says how large a stored table is, what its body sums up to, and how much it holds. -/
structure Describes (h : Header) (d : TableData) : Prop where
  mark : h.hasMagic = true
  version : h.hasVersion = true
  checksum : h.checksum = Codec.checksum d.encodeBody
  totalSize : h.totalSize.toNat = d.encode.length
  bodySize : h.bodySize.toNat = d.encodeBody.length
  counts : (∀ n ∈ d.counts, n < 2 ^ 16) → h.counts.map UInt16.toNat = d.counts

end Header

namespace TableData

theorem length_encode (d : TableData) : d.encode.length = Header.size + d.encodeBody.length := by
  rw [encode, List.length_append, Header.length_toBytes]

theorem take_encode (d : TableData) :
    d.encode.take Header.size = (d.header d.encodeBody).toBytes := by
  rw [encode, List.take_left' (Header.length_toBytes _)]

theorem drop_encode (d : TableData) : d.encode.drop Header.size = d.encodeBody := by
  rw [encode, List.drop_left' (Header.length_toBytes _)]

/-- The header in front of a table, read back, describes the table. -/
theorem header_describes {d : TableData} (hshort : d.encode.length < 2 ^ 32) :
    (Header.ofBytes (d.encode.take Header.size)).Describes d := by
  rw [take_encode, Header.ofBytes_toBytes]
  rw [length_encode] at hshort
  constructor
  case mark => exact beq_self_eq_true _
  case version => exact beq_self_eq_true _
  case checksum => rfl
  case totalSize =>
    rw [length_encode]
    exact UInt32.toNat_ofNat_of_lt' hshort
  case bodySize => exact UInt32.toNat_ofNat_of_lt' (Nat.lt_of_le_of_lt (Nat.le_add_left _ _) hshort)
  case counts =>
    intro hcounts
    have kept : (d.header d.encodeBody).counts = d.counts.map Nat.toUInt16 := rfl
    rw [kept, List.map_map]
    calc d.counts.map (UInt16.toNat ∘ Nat.toUInt16)
      _ = d.counts.map id := List.map_congr_left fun n hn => UInt16.toNat_ofNat_of_lt' (hcounts n hn)
      _ = d.counts := List.map_id _

end TableData

namespace ParseTable

/-- The data of a usable table give back the table. -/
theorem ofData_data (t : ParseTable) : ofData t.data = .ok t := by
  obtain ⟨d, patterns, padding, valid, consistent, patterns_eq, padding_eq, rfl⟩ := t
  unfold ofData
  split
  case h_1 what hproblem =>
    rw [consistent] at hproblem
    cases hproblem
  case h_2 =>
  split
  case h_1 e hpatterns =>
    rw [patterns_eq] at hpatterns
    cases hpatterns
  case h_2 found hpatterns =>
  split
  case h_1 e hpadding =>
    rw [padding_eq] at hpadding
    cases hpadding
  case h_2 unit hpadding =>
  rw [patterns_eq] at hpatterns
  rw [padding_eq] at hpadding
  cases hpatterns
  cases hpadding
  rfl

theorem data_of_ofData {d : TableData} {t : ParseTable} (h : ofData d = .ok t) : t.data = d := by
  unfold ofData at h
  split at h
  case h_1 => cases h
  case h_2 =>
  split at h
  case h_1 => cases h
  case h_2 =>
  split at h
  case h_1 => cases h
  case h_2 =>
  cases h
  rfl

/-- A usable table that is stored is read back. -/
theorem ofBytes_encode {d : TableData} {t : ParseTable} (hload : ofData d = .ok t)
    (hstored : d.Storable) (hshort : d.encode.length < 2 ^ 32) : ofBytes d.encode = .ok t := by
  have describes := TableData.header_describes hshort
  have hlength := d.length_encode
  have hbody : Codec.decode TableData.read d.encodeBody = .ok d :=
    hstored.reads.decode_eq (by omega)
  have checked : ofBytes d.encode = (ofData d).mapError .defect := by
    simp only [ofBytes]
    rw [d.drop_encode, if_neg (by omega), describes.mark, describes.version, describes.totalSize,
      describes.bodySize, describes.checksum, hbody, if_neg (by simp), if_neg (by simp),
      if_neg (by simp), if_neg (by simp)]
    rfl
  rw [checked, hload]
  rfl

/-- Every usable table whose numbers fit is read back as it was stored, and the header in front of it
says the truth about it; headers and the 64 bytes that hold them say the same. -/
theorem stored_faithfully {d : TableData} {t : ParseTable} (hload : ofData d = .ok t)
    (hstored : d.Storable) (hshort : d.encode.length < 2 ^ 32) :
    ofBytes d.encode = .ok t ∧ t.data = d ∧
      (Header.ofBytes (d.encode.take Header.size)).Describes d ∧
      (∀ h : Header, Header.ofBytes h.toBytes = h) ∧
      ∀ bytes : List UInt8, bytes.length = Header.size → (Header.ofBytes bytes).toBytes = bytes :=
  ⟨ofBytes_encode hload hstored hshort, data_of_ofData hload, TableData.header_describes hshort,
    Header.ofBytes_toBytes, fun _ => Header.toBytes_ofBytes⟩

/-- A table that makes a node of one letter. -/
def oneLetter : TableData where
  name := "letter"
  symbols := #[{ name := "end", kind := .endOfText, named := false, visible := false },
    { name := "a", kind := .literal, named := false, visible := true },
    { name := "s", kind := .nonterminal, named := true, visible := true }]
  terminalCount := 2
  nonterminalCount := 1
  externalCount := 0
  fields := #["x"]
  productions := #[{ lhs := 2, children := [{ symbol := 1, field := some 1 }], precedence := -1 }]
  stateCount := 3
  actionLists := #[[], [.shift 1], [.reduce 0], [.accept]]
  actionIndex := #[0, 1, 2, 0, 3, 0]
  gotoIndex := #[2, noGoto, noGoto]
  startSymbol := 2
  lex := {
    tokens := #[⟨.endOfText, false⟩, ⟨.literal "a", false⟩]
    padding := none
    word := none
    keywords := [] }
  recovery := []
  conflicts := []

theorem storable_oneLetter : oneLetter.Storable where
  terminalCount := by decide
  nonterminalCount := by decide
  externalCount := by decide
  productions := by
    intro p hp
    have hp : p = { lhs := 2, children := [{ symbol := 1, field := some 1 }], precedence := -1 } :=
      Array.mem_singleton.mp hp
    subst hp
    refine ⟨by decide, ?_, by decide, by decide⟩
    intro c hc
    have hc : c = { symbol := 1, field := some 1 } := List.mem_singleton.mp hc
    subst hc
    exact ⟨by decide, by decide, by decide⟩
  stateCount := by decide
  actions := by
    have small : ∀ l ∈ [[], [Action.shift 1], [.reduce 0], [.accept]], ∀ a ∈ l, a.Storable := by
      simp [Action.Storable]
    exact fun l hl => small l (Array.mem_toList_iff.mpr hl)
  actionIndex := by decide
  gotoIndex := by decide
  startSymbol := by decide
  lex := by
    refine ⟨?_, by decide, by decide⟩
    intro t ht
    have ht : t = ⟨.endOfText, false⟩ ∨ t = ⟨.literal "a", false⟩ := by simpa [oneLetter] using ht
    obtain rfl | rfl := ht <;> exact trivial
  recovery := by decide
  conflicts := by decide

theorem length_oneLetter : oneLetter.encode.length < 2 ^ 32 := by
  rw [TableData.length_encode]
  cbv

theorem stored_faithfully_oneLetter : ∃ t, ofData oneLetter = .ok t ∧
    ofBytes oneLetter.encode = .ok t ∧ t.data = oneLetter ∧
      (Header.ofBytes (oneLetter.encode.take Header.size)).Describes oneLetter ∧
      (∀ h : Header, Header.ofBytes h.toBytes = h) ∧
      ∀ bytes : List UInt8, bytes.length = Header.size → (Header.ofBytes bytes).toBytes = bytes := by
  let t : ParseTable := {
    data := oneLetter
    patterns := #[none, none]
    padding := none
    valid := #[[1], [0], [0]]
    consistent := by cbv
    patterns_eq := by cbv
    padding_eq := by cbv
    valid_eq := by cbv }
  exact ⟨t, ofData_data t, stored_faithfully (ofData_data t) storable_oneLetter length_oneLetter⟩

end ParseTable

end IncrementalGlr
