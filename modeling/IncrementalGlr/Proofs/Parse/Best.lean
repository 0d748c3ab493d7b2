import IncrementalGlr.Proofs.Parse.Promise

/-!
The best parse. Where no token is an extra and nothing goes wrong, heads with the same states can do
the same with the rest of the text. So merging can drop a head that leads to the best tree only for one
that leads to a tree as good, as long as heads carry what the productions on their stacks are worth,
which they do while 32 bits hold it: at every token there is a head that promises the best
(`Engine.le_of_runFrom`).
-/
namespace IncrementalGlr

/-- The symbols of the tokens before the end of the text. -/
def Token.sentence (tokens : List Token) : List SymbolId :=
  (tokens.takeWhile fun t => t.symbol != endSymbol).map Token.symbol

/-- What follows a token, the end of the text included. -/
def Token.following (token : Token) (tokens : List Token) : List SymbolId :=
  if token.symbol = endSymbol then [] else Token.sentence tokens ++ [endSymbol]

theorem Token.following_of_end {token : Token} (tokens : List Token)
    (h : token.symbol = endSymbol) : token.following tokens = [] := if_pos h

theorem Token.sentence_cons (token : Token) (tokens : List Token) :
    Token.sentence (token :: tokens) ++ [endSymbol] = token.symbol :: token.following tokens := by
  unfold Token.following
  split
  · next h => simp [Token.sentence, h]
  · next h => simp [Token.sentence, h]

/-- The steps of a parse in which no head was dropped for being one too many, and no token had as many
reductions as are allowed. -/
structure TraceEvent.Calm (trace : List TraceEvent) : Prop where
  prune : ∀ n, .prune n ∉ trace
  brief : TraceEvent.Brief trace

theorem TraceEvent.Calm.of_prefix {row trace : List TraceEvent} (h : TraceEvent.Calm trace)
    (hrow : row <+: trace) : TraceEvent.Calm row where
  prune n hmem := h.prune n (hrow.subset hmem)
  brief := h.brief.of_infix hrow.isInfix

namespace Stack

variable {s : Stack}

/-- Nothing on the stack is an extra. -/
def Plain (s : Stack) : Prop := ∀ e ∈ s, e.subtree.extra = false

theorem Plain.mains_eq (h : s.Plain) : mains s = s :=
  List.filter_eq_self.2 fun e he => by simp [h e he]

theorem Plain.states_eq_map (h : s.Plain) : states s = s.map Entry.state ++ [0] := by
  rw [states, h.mains_eq]

section Reduce

variable {table : ParseTable} {s' : Stack} {id : ProductionId} {lookaheadEnd : Nat} {fragile : Bool}
  {next : StateId} (h : s.Plain)
  (hr : Stack.reduce table s id lookaheadEnd fragile = some (s', next))
include h hr

/-- Where there are no extras, a node is put in the place of what is on top. -/
theorem Plain.exists_of_reduce : ∃ p, table.production? id = some p ∧ ∃ top below : Stack,
    s = top ++ below ∧ top.length = p.length ∧ table.goto below.state p.lhs = some next ∧
      s' = push below next (nodeOver p id lookaheadEnd fragile top below) := by
  obtain ⟨p, hp, extras, top, below, rfl, hextras, hcount, hgoto, rfl⟩ := Stack.exists_of_reduce hr
  obtain rfl : extras = [] := List.eq_nil_iff_forall_not_mem.2 fun e he => by
    have := h e (List.mem_append_left _ he)
    rw [hextras e he] at this
    cases this
  rw [List.nil_append] at h
  have plain : Plain top := fun e he => h e (List.mem_append_left below he)
  exact ⟨p, hp, top, below, rfl, plain.mains_eq ▸ hcount, hgoto, rfl⟩

theorem Plain.reduce : s'.Plain := by
  obtain ⟨p, hp, top, below, rfl, -, -, rfl⟩ := h.exists_of_reduce hr
  exact List.forall_mem_cons.2 ⟨rfl, fun e he => h e (List.mem_append_right top he)⟩

end Reduce

/-- The root over a single subtree is that subtree. -/
theorem rootOf_singleton {t : Subtree} (h : t.extra = false) (lookaheadEnd : Nat) :
    Engine.rootOf [t] lookaheadEnd = t := by
  simp [Engine.rootOf, Engine.splitMain, h, Subtree.withExtras]

/-- The root over a stack with one symbol is what lies there. -/
theorem Plain.exists_rootOf {x : SymbolId} (h : s.Plain) (hsymbols : s.symbols = [x])
    (lookaheadEnd : Nat) : ∃ e, s = [e] ∧ Engine.rootOf s.subtrees lookaheadEnd = e.subtree := by
  rw [symbols, h.mains_eq] at hsymbols
  obtain ⟨e, rfl, -⟩ := List.map_eq_singleton_iff.1 hsymbols
  exact ⟨e, rfl, rootOf_singleton (h e (List.mem_singleton_self e)) lookaheadEnd⟩

end Stack

namespace Engine

open Parsing

variable {e : Engine} {token : Token} {c c' : Configuration} {g : FlatGrammar} {a : Automaton}

/-- A head that has made no error, has no extras on its stack, and carries the sum of what lies there. -/
structure Plain (e : Engine) (a : Automaton) (h : Head) : Prop where
  path : e.OnPath a h
  plain : h.stack.Plain
  errorCost : h.errorCost = 0
  summed : h.Summed e.table []

theorem summed_of_fresh (hfresh : e.reuse = none) :
    e.Invariant (fun _ _ => True) (fun _ => Head.Summed e.table) (Subtree.Summed e.table) :=
  summed fun _ hr => absurd (hfresh.symm.trans hr) nofun

theorem keeps_plain (uses : e.Uses g a) (hfresh : e.reuse = none) : e.Keeps token (Plain e a) where
  path _ path h :=
    ⟨h.path, h.plain, h.errorCost, ((summed_of_fresh hfresh).keeps 0 token).path _ path h.summed⟩
  reduce := by
    intro fragile id h next hh ha hr
    have hsummed := ((summed_of_fresh hfresh).keeps 0 token).reduce _ _ _ _ hh.summed ha hr
    obtain ⟨p, stack, state, -, hreduce, rfl⟩ := hr
    exact ⟨hh.path.reduce uses.guides ha hreduce, hh.plain.reduce hreduce, hh.errorCost, hsummed⟩

theorem Plain.shifted (uses : e.Uses g a) (htext : token.HasText) {h : Head} {r : StateId}
    (hh : Plain e a h) (ha : .shift r ∈ e.table.actions h.state token.symbol) (fragile : Bool) :
    Plain e a (shifted token fragile none (h, some r)) where
  path := hh.path.push
    (Subtree.genuine_leaf (ParseTable.isTerminal_of_mem_actions ha) htext
      (fun h : false = true => nomatch h) ..) rfl
    fun _ hbelow => uses.guides.shift (hbelow ▸ hh.path.on) ha
  plain := List.forall_mem_cons.2 ⟨rfl, hh.plain⟩
  errorCost := hh.errorCost
  summed := hh.summed.push_bare rfl rfl rfl rfl rfl

/-- A head whose sum is in the range carries it. -/
theorem Plain.dynamicPrecedence_eq {h : Head} (hh : Plain e a h)
    (hsum : IsInt32 (h.stack.sumOf e.table.worthOf)) :
    h.dynamicPrecedence = h.stack.sumOf e.table.worthOf :=
  hh.summed.dynamicPrecedence.trans (wrap32_of_isInt32 hsum)

theorem Plain.best (uses : e.Uses g a) {best h : Head} (hbest : Plain e a best) (hh : Plain e a h)
    (hsum : IsInt32 (best.stack.sumOf e.table.worthOf)) (hsum' : IsInt32 (h.stack.sumOf e.table.worthOf))
    (ha : .accept ∈ e.table.actions best.state endSymbol) (hle : best.preference h ≠ .gt)
    (lookaheadEnd : Nat) : h.stack.sumOf e.table.worthOf ≤
      (rootOf best.stack.subtrees lookaheadEnd).info.dynamicPrecedence := by
  obtain ⟨below, hbelow⟩ := hbest.path.steady.states_eq
  obtain ⟨x, hx, hroot⟩ := hbest.plain.exists_rootOf
    (uses.guides.accept (hbelow ▸ hbest.path.on) ha) lookaheadEnd
  have carried := (hbest.summed.stack x (hx ▸ List.mem_singleton_self x)).dynamicPrecedence_eq
  have alone : Subtree.sumOf e.table.worthOf [x.subtree] = best.stack.sumOf e.table.worthOf := by
    rw [hx]
    rfl
  rw [hroot, carried, alone, wrap32_of_isInt32 hsum, ← hbest.dynamicPrecedence_eq hsum,
    ← hh.dynamicPrecedence_eq hsum']
  exact Head.dynamicPrecedence_le hle (hbest.errorCost.trans hh.errorCost.symm)

section Run

variable (uses : e.Uses g a) (hclosing : e.table.Closing)
  (hfresh : e.reuse = none) (hextra : ∀ s, e.table.isExtra s = false)
include uses hfresh hextra

/-- When heads have taken a token, one of those that are left promises what one of them did. -/
theorem exists_promise_of_shift (htext : token.HasText) {shifts : List (Head × Option StateId)}
    {fragile : Bool} (hr : Returns (e.shift shifts token fragile none) c () c')
    (hs : ∀ x ∈ shifts, Plain e a x.1 ∧ taking x.2 ∈ e.table.actions x.1.state token.symbol)
    (hprune : ∀ n, .prune n ∉ c'.trace) {h : Head} {r : StateId} {rest : List SymbolId}
    {more d : Int} (hmem : (h, some r) ∈ shifts)
    (hsum : IsInt32 (h.stack.sumOf e.table.worthOf))
    (hsums : ∀ k ∈ c'.heads, IsInt32 (k.stack.sumOf e.table.worthOf))
    (hrest : Machine.AcceptsFrom g (.ofAutomaton g a) ⟨r :: h.stack.states, rest⟩ more)
    (hd : d ≤ h.stack.sumOf e.table.worthOf + more) :
    (∀ k ∈ c'.heads, Plain e a k) ∧ ∃ k ∈ c'.heads, k.Promises e.table g a rest d := by
  have plain {x : Head × Option StateId} (hx : x ∈ shifts) (fragile : Bool) :
      Plain e a (shifted token fragile none x) := by
    obtain ⟨hplain, ha⟩ := hs x hx
    obtain ⟨h, _ | r⟩ := x
    · have := uses.guides.extra ha
      rw [hextra] at this
      cases this
    · exact hplain.shifted uses htext ha fragile
  obtain ⟨kept, quiet, -, origin⟩ := returns_shift (List.ne_nil_of_mem hmem) hr
  have all : ∀ k ∈ c'.heads, Plain e a k := by
    rw [quiet.heads]
    intro k hk
    obtain ⟨x, hx, path, rfl⟩ := origin k hk
    exact (@keeps_plain _ token _ _ uses hfresh).path _ path (plain hx _)
  refine ⟨all, ?_⟩
  obtain ⟨k, hk, fragile', hsame, hle⟩ :=
    exists_kept_of_shift hr (fun x hx => (hs x hx).1.errorCost) hprune _ hmem
  rw [(hs _ hmem).1.dynamicPrecedence_eq hsum, (all k hk).dynamicPrecedence_eq (hsums k hk)] at hle
  refine ⟨k, hk, more, ?_, Int.le_trans hd (Int.add_le_add_right hle more)⟩
  have states : k.stack.states = r :: h.stack.states := by
    rw [(all k hk).plain.states_eq_map, Stack.sameStates_iff.1 hsame,
      ← (plain hmem fragile').plain.states_eq_map]
    exact Stack.states_push rfl
  rw [states]
  exact hrest

variable {fuel : Option Nat} (hsums : ∀ h, e.Live fuel h → IsInt32 (h.stack.sumOf e.table.worthOf))
include hclosing hsums

/-- The root of a parse is worth what one of the heads promises. -/
theorem le_of_runFrom {pulls : Nat} {root : Subtree} (hr : Returns (e.runFrom pulls) c root c')
    (hcalm : TraceEvent.Calm c'.trace.toList) {tokens : List Token}
    (hpulled : c'.pulled = c.pulled ++ tokens) (hnone : c.pending = []) (hc : e.Between fuel c)
    (hplain : ∀ h ∈ c.heads, Plain e a h) {d : Int}
    (hp : ∃ h ∈ c.heads, h.Promises e.table g a (Token.sentence tokens ++ [endSymbol]) d) :
    d ≤ root.info.dynamicPrecedence := by
  -- By induction on the tokens that may still be pulled; each hands the promise on to a head after it.
  induction pulls generalizing c tokens with
  | zero => exact absurd hr not_returns_throw
  | succ pulls ih =>
    obtain ⟨token, c₂, result, c₃, tokens, pulls, hconsume, grown, hpulled', hr⟩ :=
      exists_pulls_of_runFrom hr
    have hcalm₃ := hcalm.of_prefix grown
    obtain rfl := List.append_cancel_left (hpulled.symm.trans hpulled')
    rw [Token.sentence_cons] at hp
    have hnone₂ := pulls.pending.trans hnone
    have faces : e.Faces fuel token c₂ := .tried (.pulled hc pulls.looked) hnone₂
    obtain ⟨consumed, quiet⟩ := consume_of_promise uses (keeps_plain uses hfresh)
      (fun h hh => hh.path) hclosing hfresh (pulls.heads ▸ hplain) (pulls.heads ▸ hp)
      (Token.following_of_end tokens) hnone₂ hconsume hcalm₃.brief
    cases consumed with
    | finished _ phase _ best h _ hphase haccepts hbest hmem ha hle hd =>
      obtain ⟨rfl, rfl⟩ := hr
      have sums : ∀ x ∈ phase.accepts, IsInt32 (x.stack.sumOf e.table.worthOf) := fun x hx =>
        hsums x (.reduced faces hphase (List.mem_append_left _ (List.mem_append_right _ hx)))
      exact Int.le_trans hd ((haccepts best hbest).best uses (haccepts h hmem) (sums best hbest)
        (sums h hmem) ha hle _)
    | taken recovering phase c₁ h r more hend hphase hshift hshifts hmem hrest hd =>
      rw [Token.following, if_neg hend] at hrest
      have hc₃ : e.Between fuel c₃ := by
        refine .next hc (returns_bind.2 ?_)
        obtain ⟨u, d, hpoll, hnext⟩ := returns_bind.1 pulls.looked
        exact ⟨u, d, hpoll, returns_bind.2 ⟨token, c₂, hnext, hconsume⟩⟩
      have hsum := hsums h (.reduced faces hphase (List.mem_append_left _ (List.mem_append_left _
        (List.mem_map.2 ⟨_, hmem, rfl⟩))))
      obtain ⟨hplain₃, hp₃⟩ := exists_promise_of_shift uses hfresh hextra pulls.hasText hshift
        hshifts (fun n hn => hcalm₃.prune n (Array.mem_toList_iff.2 hn)) hmem hsum
        (fun k hk => hsums k (.waiting hc₃ hk)) hrest hd
      refine ih hr ?_ ?_ hc₃ hplain₃ hp₃
      · rw [hpulled', quiet, pulls.pulled, List.append_assoc, List.singleton_append]
      · obtain ⟨kept, quiet', -⟩ := returns_shift (List.ne_nil_of_mem hmem) hshift
        exact (quiet'.pending.trans (returns_reducePhase hphase).1.pending).trans hnone₂

/-- The root of a parse is worth at least what every derivation tree of its tokens is. -/
theorem le_of_run (he : g.Even) {root : Subtree} (hr : Returns e.run { fuel } root c)
    (hcalm : TraceEvent.Calm c.trace.toList) {d : Int}
    (hd : g.Weighs [g.start] (Token.sentence c.pulled) d) : d ≤ root.info.dynamicPrecedence := by
  obtain ⟨b⟩ := uses.built
  have promises :
      ({} : Head).Promises e.table g a (Token.sentence c.pulled ++ [endSymbol]) d :=
    ⟨d, Machine.acceptsFrom_of_weighs b uses.inRange he hd, Int.le_of_eq (Int.zero_add d).symm⟩
  refine le_of_runFrom uses hclosing hfresh hextra hsums hr hcalm rfl rfl .start (fun h hh => ?_)
    ⟨_, List.mem_singleton_self _, promises⟩
  rw [List.mem_singleton.1 hh]
  exact ⟨⟨trivial, uses.guides.start, nofun⟩, nofun, rfl, nofun, rfl, nofun⟩

end Run

end Engine

end IncrementalGlr
