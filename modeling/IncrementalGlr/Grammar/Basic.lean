/-!
Grammars as their author writes them. A grammar has named rules, the first of which is the start
rule, and lists that say which tokens may stand anywhere, which are recognised by an external
scanner, which conflicts are intended and how rules bind. Rules keep the order of their
definition; `Rules.put` keeps their names distinct.
-/
namespace IncrementalGlr

/-- How strongly a rule binds: a number, or the name of a level. -/
inductive Precedence where
  | integer (n : Int)
  | name (level : String)
  deriving DecidableEq, Repr, Inhabited

/-- An entry of a precedence ordering: the name of a level, or of a rule. -/
inductive PrecedenceEntry where
  | name (level : String)
  | symbol (rule : String)
  deriving DecidableEq, Repr, Inhabited

/-- The right-hand side of a rule. -/
inductive Rule where
  /-- Nothing. -/
  | blank
  /-- A token with fixed text. -/
  | string (text : String)
  /-- A token given by a regular expression. -/
  | pattern (regex : String) (flags : Option String)
  /-- A rule or external token by name. -/
  | symbol (name : String)
  | seq (members : List Rule)
  | choice (members : List Rule)
  | zeroOrMore (content : Rule)
  | oneOrMore (content : Rule)
  /-- Content whose nodes carry a field name. -/
  | field (name : String) (content : Rule)
  /-- Content whose node carries another name. -/
  | renamed (content : Rule) (name : String) (named : Bool)
  /-- Content recognised as one token. -/
  | token (content : Rule)
  /-- A token that must follow the one before it at once. -/
  | immediateToken (content : Rule)
  | prec (value : Precedence) (content : Rule)
  | precLeft (value : Precedence) (content : Rule)
  | precRight (value : Precedence) (content : Rule)
  /-- A preference among several parses of the same text. -/
  | precDynamic (value : Int) (content : Rule)
  /-- Content under a named set of reserved words. -/
  | reserved (context : String) (content : Rule)
  deriving BEq, Repr, Inhabited

/-- Named rules in the order of their definition. -/
structure Rules where
  entries : List (String × Rule)
  nodup : (entries.map Prod.fst).Nodup

namespace Rules

instance : BEq Rules := ⟨fun a b => a.entries == b.entries⟩

def empty : Rules := ⟨[], List.nodup_nil⟩

instance : Inhabited Rules := ⟨empty⟩

/-- Gives `name` a new body in place, or adds it at the end. -/
def putEntry (name : String) (body : Rule) : List (String × Rule) → List (String × Rule)
  | [] => [(name, body)]
  | e :: rest => if e.1 = name then (name, body) :: rest else e :: putEntry name body rest

theorem mem_names_putEntry {name x : String} {body : Rule} {entries : List (String × Rule)}
    (h : x ∈ (putEntry name body entries).map Prod.fst) :
    x = name ∨ x ∈ entries.map Prod.fst := by
  induction entries with
  | nil => simpa [putEntry] using h
  | cons e rest ih =>
    rw [putEntry] at h
    split at h
    · next he => simpa [he] using h
    · rcases List.mem_cons.1 h with h | h
      · exact .inr (List.mem_cons.2 (.inl h))
      · exact (ih h).imp_right fun h => List.mem_cons.2 (.inr h)

theorem nodup_putEntry {name : String} {body : Rule} {entries : List (String × Rule)}
    (h : (entries.map Prod.fst).Nodup) : ((putEntry name body entries).map Prod.fst).Nodup := by
  induction entries with
  | nil => simp [putEntry]
  | cons e rest ih =>
    obtain ⟨hn, hr⟩ := List.nodup_cons.1 h
    rw [putEntry]
    split
    · next he => exact List.nodup_cons.2 ⟨he ▸ hn, hr⟩
    · next he =>
      refine List.nodup_cons.2 ⟨fun hm => ?_, ih hr⟩
      exact (mem_names_putEntry hm).elim he hn

/-- Defines `name`; a name defined before keeps its place and gets the new body. -/
def put (rules : Rules) (name : String) (body : Rule) : Rules :=
  ⟨putEntry name body rules.entries, nodup_putEntry rules.nodup⟩

def ofList (entries : List (String × Rule)) : Rules :=
  entries.foldl (fun rules e => rules.put e.1 e.2) empty

def find? (rules : Rules) (name : String) : Option Rule := rules.entries.lookup name

def contains (rules : Rules) (name : String) : Bool := rules.entries.any fun e => e.1 == name

def names (rules : Rules) : List String := rules.entries.map Prod.fst

end Rules

/-- A complete grammar. -/
structure Grammar where
  name : String
  rules : Rules := .empty
  /-- What may stand between any two tokens. -/
  extras : List Rule := []
  /-- Orderings of precedence levels, the strongest first. -/
  precedences : List (List PrecedenceEntry) := []
  /-- Sets of rules between which ambiguity is intended. -/
  conflicts : List (List String) := []
  /-- Tokens recognised by the external scanner. -/
  externals : List Rule := []
  /-- Rules that leave no node. -/
  inline : List String := []
  /-- Rules that stand for a family of others. -/
  supertypes : List String := []
  /-- The token that keywords are carved out of. -/
  word : Option String := none
  /-- Reserved words by context. -/
  reserved : List (String × List Rule) := []
  /-- The grammar this one extends. -/
  inherits : Option String := none
  /-- Tokens at which parsing resumes after an error, by text or by name. -/
  recovery : List String := []
  deriving BEq, Inhabited

namespace Grammar

/-- The first rule. -/
def startRule? (g : Grammar) : Option (String × Rule) := g.rules.entries.head?

/-- Whether the rule leaves no node of its own: its name starts with an underscore, or it is
declared inline. -/
def isHidden (g : Grammar) (name : String) : Bool :=
  name.toList.head? == some '_' || g.inline.contains name

end Grammar

end IncrementalGlr
