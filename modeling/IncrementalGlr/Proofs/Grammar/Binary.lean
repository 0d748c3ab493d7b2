import Mathlib
import IncrementalGlr.Grammar.Binary
import IncrementalGlr.Proofs.Codec.Delimited
import IncrementalGlr.Proofs.Grammar.Json

/-!
The binary form of a grammar is lossless and says itself where it ends.

Rules nest, and a rule is read with as much room for nesting as there are bytes. Each kind of rule is
read as it was written if the rules directly inside are (`Rule.reads_of_contents`), and these take fewer
bytes, so the room suffices. With more behind it a rule is read in more room, which changes nothing of
what was read in less (`Rule.extends_decode`). A grammar is then followed field by field, once for what
is read of the bytes that were written and once for what does not depend on the bytes behind.
-/
namespace IncrementalGlr

open Codec

/-! ## Written bytes are read back -/

theorem reads_of_fitsInt32 {n : Int} (h : fitsInt32 n = true) : Reads readInt (writeInt n) n := by
  rw [fitsInt32, Bool.and_eq_true, decide_eq_true_eq, decide_eq_true_eq] at h
  exact .int (by omega) (by omega)

namespace Precedence

theorem reads {p : Precedence} (h : p.fits = true) : Reads Precedence.decode p.encode p := by
  cases p with
  | integer n =>
    apply Reads.bind_cons (reads_tag (b := 0) (by decide))
    exact (reads_of_fitsInt32 h).map
  | name level =>
    apply Reads.bind_cons (reads_tag (b := 1) (by decide))
    exact (Reads.text level).map

theorem extends_decode : Extends Precedence.decode Precedence.decode := by
  apply Extends.bind (.nat 32)
  intro kind
  match kind with
  | 0 => exact Extends.int.map _
  | 1 => exact Extends.text.map _
  | _ + 2 => exact .throw _

end Precedence

namespace PrecedenceEntry

theorem reads (e : PrecedenceEntry) : Reads PrecedenceEntry.decode e.encode e := by
  cases e with
  | name level =>
    apply Reads.bind_cons (reads_tag (b := 0) (by decide))
    exact (Reads.text level).map
  | symbol rule =>
    apply Reads.bind_cons (reads_tag (b := 1) (by decide))
    exact (Reads.text rule).map

theorem length_encode_pos (e : PrecedenceEntry) : 0 < e.encode.length := by
  cases e <;> exact Nat.succ_pos _

theorem extends_decode : Extends PrecedenceEntry.decode PrecedenceEntry.decode := by
  apply Extends.bind (.nat 32)
  intro kind
  match kind with
  | 0 => exact Extends.text.map _
  | 1 => exact Extends.text.map _
  | _ + 2 => exact .throw _

end PrecedenceEntry

namespace Rule

theorem encodeRules_eq (rs : List Rule) : encodeRules rs = rs.flatMap encode := by
  induction rs with
  | nil => rfl
  | cons r rs ih => rw [encodeRules, ih, List.flatMap_cons]

theorem length_encode_pos (r : Rule) : 0 < r.encode.length := by
  cases r <;> exact Nat.succ_pos _

theorem length_encode_le {r : Rule} {rs : List Rule} (h : r ∈ rs) :
    r.encode.length ≤ (encodeRules rs).length := by
  rw [encodeRules_eq]
  exact (List.sublist_flatten_of_mem (List.mem_map_of_mem h)).length_le

/-- The rules directly inside a rule take fewer bytes. -/
theorem length_encode_lt {r c : Rule} (h : c ∈ r.contents) : c.encode.length < r.encode.length := by
  cases r with
  | blank | string | pattern | symbol => cases h
  | seq members | choice members =>
    have : c.encode.length ≤ (encodeRules members).length := length_encode_le h
    simp only [encode, List.cons_append, List.length_cons, List.length_append]
    omega
  | zeroOrMore | oneOrMore | field | renamed | token | immediateToken | prec | precLeft | precRight
  | precDynamic | reserved =>
    cases List.mem_singleton.mp h
    simp only [encode, List.cons_append, List.length_cons, List.length_append]
    omega

/-- A rule is read as it was written if the rules directly inside are. -/
theorem reads_of_contents {r : Rule} {depth : Nat} (hfits : r.fits = true)
    (h : ∀ c ∈ r.contents, Reads (decode depth) c.encode c) :
    Reads (decode (depth + 1)) r.encode r := by
  cases r with
  | blank =>
    apply Reads.bind_cons (reads_tag (b := 0) (by decide))
    exact .pure _
  | string text =>
    apply Reads.bind_cons (reads_tag (b := 1) (by decide))
    exact (Reads.text text).map
  | pattern regex flags =>
    apply Reads.bind_cons (reads_tag (b := 2) (by decide))
    exact (Reads.text regex).map.bind (Reads.option fun s _ => .text s).map
  | symbol name =>
    apply Reads.bind_cons (reads_tag (b := 3) (by decide))
    exact (Reads.text name).map
  | seq members =>
    apply Reads.bind_cons (reads_tag (b := 4) (by decide))
    rw [encodeRules_eq]
    exact (Reads.list length_encode_pos h).map
  | choice members =>
    apply Reads.bind_cons (reads_tag (b := 5) (by decide))
    rw [encodeRules_eq]
    exact (Reads.list length_encode_pos h).map
  | zeroOrMore content =>
    apply Reads.bind_cons (reads_tag (b := 6) (by decide))
    exact (h content List.mem_cons_self).map
  | oneOrMore content =>
    apply Reads.bind_cons (reads_tag (b := 7) (by decide))
    exact (h content List.mem_cons_self).map
  | field name content =>
    apply Reads.bind_cons (reads_tag (b := 8) (by decide))
    exact (Reads.text name).map.bind (h content List.mem_cons_self).map
  | renamed content name named =>
    apply Reads.bind_cons (reads_tag (b := 9) (by decide))
    exact ((h content List.mem_cons_self).map.bind (Reads.text name).map).bind (Reads.bool named).map
  | token content =>
    apply Reads.bind_cons (reads_tag (b := 10) (by decide))
    exact (h content List.mem_cons_self).map
  | immediateToken content =>
    apply Reads.bind_cons (reads_tag (b := 11) (by decide))
    exact (h content List.mem_cons_self).map
  | prec value content =>
    apply Reads.bind_cons (reads_tag (b := 12) (by decide))
    exact (Precedence.reads (Bool.and_eq_true_iff.mp hfits).1).map.bind (h content List.mem_cons_self).map
  | precLeft value content =>
    apply Reads.bind_cons (reads_tag (b := 13) (by decide))
    exact (Precedence.reads (Bool.and_eq_true_iff.mp hfits).1).map.bind (h content List.mem_cons_self).map
  | precRight value content =>
    apply Reads.bind_cons (reads_tag (b := 14) (by decide))
    exact (Precedence.reads (Bool.and_eq_true_iff.mp hfits).1).map.bind (h content List.mem_cons_self).map
  | precDynamic value content =>
    apply Reads.bind_cons (reads_tag (b := 15) (by decide))
    exact (reads_of_fitsInt32 (Bool.and_eq_true_iff.mp hfits).1).map.bind
      (h content List.mem_cons_self).map
  | reserved context content =>
    apply Reads.bind_cons (reads_tag (b := 16) (by decide))
    exact (Reads.text context).map.bind (h content List.mem_cons_self).map

/-- A rule is read in as much room as it has bytes, by induction on the room. -/
theorem reads_decode {depth : Nat} {r : Rule} (hfits : r.fits = true)
    (hdepth : r.encode.length ≤ depth) : Reads (decode depth) r.encode r := by
  induction depth generalizing r with
  | zero =>
    have := length_encode_pos r
    omega
  | succ depth ih =>
    apply reads_of_contents hfits
    intro c hc
    have := length_encode_lt hc
    exact ih (fits_contents hfits hc) (by omega)

theorem reads {r : Rule} (hfits : r.fits = true) : Reads Rule.read r.encode r := by
  intro counted rest
  have hdepth : r.encode.length ≤ (r.encode ++ rest).length + 1 := by
    rw [List.length_append]
    omega
  exact reads_decode hfits hdepth counted rest

/-! ## What follows does not matter -/

/-- What is read in less room and of fewer bytes is read in more room and of more bytes. -/
theorem extends_decode {depth depth' : Nat} (h : depth ≤ depth') :
    Extends (decode depth) (decode depth') := by
  induction depth generalizing depth' with
  | zero => exact .throw _
  | succ depth ih =>
    obtain ⟨room, rfl⟩ := Nat.exists_eq_add_of_lt h
    have content : Extends (decode depth) (decode (depth + room)) := ih (Nat.le_add_right depth room)
    apply Extends.bind (.nat 32)
    intro kind
    match kind with
    | 0 => exact .pure _
    | 1 => exact Extends.text.map _
    | 2 => exact (Extends.text.map _).seq (.option .text)
    | 3 => exact Extends.text.map _
    | 4 => exact content.list.map _
    | 5 => exact content.list.map _
    | 6 => exact content.map _
    | 7 => exact content.map _
    | 8 => exact (Extends.text.map _).seq content
    | 9 => exact ((content.map _).seq .text).seq .bool
    | 10 => exact content.map _
    | 11 => exact content.map _
    | 12 => exact (Precedence.extends_decode.map _).seq content
    | 13 => exact (Precedence.extends_decode.map _).seq content
    | 14 => exact (Precedence.extends_decode.map _).seq content
    | 15 => exact (Extends.int.map _).seq content
    | 16 => exact (Extends.text.map _).seq content
    | _ + 17 => exact .throw _

theorem extends_read : Extends Rule.read Rule.read := by
  intro input rest r h more
  have room : input.length + 1 ≤ (input ++ more).length + 1 := by
    rw [List.length_append]
    omega
  exact extends_decode room input rest r h more

end Rule

namespace Grammar

theorem extends_read : Extends Grammar.read Grammar.read := by
  apply Extends.text.bind; intro name
  apply ((Extends.text.map Prod.mk).seq Rule.extends_read).list.bind; intro rules
  apply Rule.extends_read.list.bind; intro extras
  apply PrecedenceEntry.extends_decode.list.list.bind; intro precedences
  apply Extends.text.list.list.bind; intro conflicts
  apply Rule.extends_read.list.bind; intro externals
  apply Extends.text.list.bind; intro inline
  apply Extends.text.list.bind; intro supertypes
  apply Extends.text.option.bind; intro word
  apply ((Extends.text.map Prod.mk).seq Rule.extends_read.list).list.bind; intro reserved
  apply Extends.text.option.bind; intro inherits
  apply Extends.text.list.bind; intro recovery
  exact .pure _

/-! ## Whole grammars -/

/-- Rules that are put one after the other stand in that order, by induction on those still to be put;
`front` are those that were. -/
theorem foldl_put (front : List (String × Rule)) {entries : List (String × Rule)}
    (hnodup : ((front ++ entries).map Prod.fst).Nodup) (hfront : (front.map Prod.fst).Nodup) :
    entries.foldl (fun rules e => rules.put e.1 e.2) (⟨front, hfront⟩ : Rules) =
      ⟨front ++ entries, hnodup⟩ := by
  induction entries generalizing front with
  | nil => simp only [List.foldl_nil, List.append_nil]
  | cons e entries ih =>
    obtain ⟨hfirst, hput⟩ := Draft.put_front hnodup hfront
    rw [List.foldl_cons, hput, ih (front ++ [e]) (List.append_cons front e entries ▸ hnodup) hfirst]
    simp only [List.append_assoc, List.singleton_append]

theorem ofList_entries (rules : Rules) : Rules.ofList rules.entries = rules :=
  foldl_put [] rules.nodup List.nodup_nil

theorem reads {g : Grammar} (hfits : g.fits = true) : Reads Grammar.read g.encode g := by
  simp only [fits, Bool.and_eq_true, List.all_eq_true] at hfits
  obtain ⟨⟨⟨frules, fextras⟩, fexternals⟩, freserved⟩ := hfits
  have hrules : g.rules = .ofList g.rules.entries := (ofList_entries g.rules).symm
  have entry_pos : ∀ e : String × Rule, 0 < (writeText e.1 ++ e.2.encode).length := by
    intro e
    have := length_writeText_pos e.1
    rw [List.length_append]
    omega
  have context_pos : ∀ e : String × List Rule,
      0 < (writeText e.1 ++ writeList Rule.encode e.2).length := by
    intro e
    have := length_writeText_pos e.1
    rw [List.length_append]
    omega
  have entry : ∀ e ∈ g.rules.entries,
      Reads (Prod.mk <$> readText <*> Rule.read) (writeText e.1 ++ e.2.encode) e := fun e he =>
    (Reads.text e.1).map.bind (Rule.reads (frules e he)).map
  have context : ∀ e ∈ g.reserved, Reads (Prod.mk <$> readText <*> readList Rule.read)
      (writeText e.1 ++ writeList Rule.encode e.2) e := fun e he =>
    (Reads.text e.1).map.bind
      (Reads.list Rule.length_encode_pos fun r hr => Rule.reads (freserved e he r hr)).map
  simp only [encode, List.append_assoc]
  apply Reads.bind (.text g.name)
  apply Reads.bind (.list entry_pos entry)
  rw [← hrules]
  apply Reads.bind (.list Rule.length_encode_pos fun r hr => Rule.reads (fextras r hr))
  apply Reads.bind (.list length_writeList_pos fun l _ =>
    .list PrecedenceEntry.length_encode_pos fun e _ => e.reads)
  apply Reads.bind (.list length_writeList_pos fun l _ => .list length_writeText_pos fun s _ => .text s)
  apply Reads.bind (.list Rule.length_encode_pos fun r hr => Rule.reads (fexternals r hr))
  apply Reads.bind (.list length_writeText_pos fun s _ => .text s)
  apply Reads.bind (.list length_writeText_pos fun s _ => .text s)
  apply Reads.bind (.option fun s _ => .text s)
  apply Reads.bind (.list context_pos context)
  apply Reads.bind (.option fun s _ => .text s)
  exact (Reads.list length_writeText_pos fun s _ => .text s).map

/-- A grammar is read back as it was written, whatever stands behind it, and no beginning of what was
written can be read: with precedences of 32 bits, and no more bytes than the length of a list can say. -/
theorem ofBytes_delimited {g : Grammar} (hfits : g.fits = true)
    (hcounted : g.encode.length < 2 ^ 64) :
    (∀ rest, ofBytes (g.encode ++ rest) = .ok g) ∧
      ∀ front, front <+: g.encode → front ≠ g.encode → ∃ fault, ofBytes front = .error (.binary fault) := by
  constructor
  · intro rest
    rw [ofBytes, decode, reads hfits hcounted rest]
    rfl
  · rintro front ⟨rest, hsplit⟩ hne
    have hrest : rest ≠ [] := by
      rintro rfl
      exact hne ((List.append_nil front).symm.trans hsplit)
    obtain ⟨fault, hfault⟩ := extends_read.decode_error hrest (hsplit ▸ reads hfits) (hsplit ▸ hcounted)
    rw [ofBytes, hfault]
    exact ⟨fault, rfl⟩

/-- The grammar of sums is read back with a letter behind it, and not without its last byte. -/
theorem ofBytes_delimited_sums :
    sums.fits = true ∧ sums.encode.length < 2 ^ 64 ∧
      ofBytes (sums.encode ++ [97]) = .ok sums ∧
      ∃ fault, ofBytes sums.encode.dropLast = .error (.binary fault) := by
  have hfits : sums.fits = true := by decide
  have hcounted : sums.encode.length < 2 ^ 64 := by cbv
  obtain ⟨whole, beginning⟩ := ofBytes_delimited hfits hcounted
  refine ⟨hfits, hcounted, whole [97], beginning _ (List.dropLast_prefix _) fun h => ?_⟩
  have := congrArg List.length h
  have : 0 < sums.encode.length := by cbv
  rw [List.length_dropLast] at *
  omega

end Grammar

end IncrementalGlr
