/-
# Theory.SqlText — the text of a `SELECT`

A query that a program puts together is a text first.  Here is how that text is read: into lexemes,
into tokens, into a `Select`.

Blanks separate lexemes, and between blanks a lexeme is a longest run of bytes of one class: `1=1`
is three.  Keywords and names are written in any case, as in SQL, and a `$` with digits is a
placeholder.  So a text that is continued with a blank is read as the two parts
(`tokens_space`), and what a program appends can be read clause by clause (`tokens_clause`).

The grammar is one table, conditions joined by `AND`, one sort key, a limit and an offset.
`parse_tokens` says that every `Select` is read from its own tokens.  What has other bytes or
another shape is refused.
-/
import Mathlib.Data.List.SplitBy
import SentinelOps.Theory.GoText

namespace SentinelOps.Theory.Sql

open GoText

set_option autoImplicit false

/-! ## Tokens -/

inductive Keyword where
  | select
  | from_
  | where_
  | and
  | order
  | by_
  | asc
  | desc
  | limit
  | offset
deriving DecidableEq

inductive Operator where
  | eq
  | lt
  | le
  | gt
  | ge
deriving DecidableEq

inductive Token where
  | keyword (k : Keyword)
  | identifier (name : GoString)
  | number (n : Nat)
  | placeholder (n : Nat)
  | operator (op : Operator)
  | comma
deriving DecidableEq

def keywords : List (GoString × Keyword) :=
  [(bytes "select", .select), (bytes "from", .from_), (bytes "where", .where_), (bytes "and", .and),
    (bytes "order", .order), (bytes "by", .by_), (bytes "asc", .asc), (bytes "desc", .desc),
    (bytes "limit", .limit), (bytes "offset", .offset)]

def symbols : List (GoString × Token) :=
  [(bytes ",", .comma), (bytes "=", .operator .eq), (bytes "<", .operator .lt),
    (bytes "<=", .operator .le), (bytes ">", .operator .gt), (bytes ">=", .operator .ge)]

inductive ByteClass where
  | word
  | operator
  | comma
  | other
deriving DecidableEq

def isLetter (b : UInt8) : Bool := inRange 0x41 0x5A b || inRange 0x61 0x7A b

def byteClass (b : UInt8) : ByteClass :=
  if isLetter b || isDigit b || b == 0x5F || b == 0x24 then .word
  else if inRange 0x3C 0x3E b then .operator
  else if b == 0x2C then .comma
  else .other

def lowerByte (b : UInt8) : UInt8 := if inRange 0x41 0x5A b then b + 0x20 else b

/-- A keyword, or else a name. -/
def word (name : GoString) : Token :=
  match keywords.lookup name with
  | some k => .keyword k
  | none => .identifier name

def token (lexeme : GoString) : Option Token :=
  match lexeme with
  | [] => none
  | b :: rest =>
      if b = 0x24 then
        if rest ≠ [] ∧ rest.all isDigit then some (.placeholder (digitsValue rest)) else none
      else if isDigit b then
        if rest.all isDigit then some (.number (digitsValue lexeme)) else none
      else if byteClass b = .word then some (word (lexeme.map lowerByte))
      else symbols.lookup lexeme

def sameClass (a b : UInt8) : Bool := byteClass a = byteClass b

def lexemes (text : GoString) : List GoString :=
  (text.splitOn 0x20).flatMap fun chunk => chunk.splitBy sameClass

def tokens (text : GoString) : Option (List Token) := (lexemes text).mapM token

example : tokens (str "SELECT Id FROM t WHERE 1=1 AND at_ >= $12") =
    some [.keyword .select, .identifier (str "id"), .keyword .from_, .identifier (str "t"),
      .keyword .where_, .number 1, .operator .eq, .number 1, .keyword .and,
      .identifier (str "at_"), .operator .ge, .placeholder 12] := by decide

/-- The numbers of the placeholders, in the order of the text. -/
def placeholders (tokens : List Token) : List Nat :=
  tokens.filterMap fun
    | .placeholder n => some n
    | _ => none

@[simp] theorem placeholders_append (s t : List Token) :
    placeholders (s ++ t) = placeholders s ++ placeholders t :=
  List.filterMap_append

theorem lexemes_space (a b : GoString) : lexemes (a ++ 0x20 :: b) = lexemes a ++ lexemes b := by
  rw [lexemes, List.splitOn_append_cons_self, List.flatMap_append]
  rfl

/-- A blank separates. -/
theorem tokens_space {a b : GoString} {s t : List Token} (first : tokens a = some s)
    (second : tokens b = some t) : tokens (a ++ 0x20 :: b) = some (s ++ t) := by
  unfold tokens at first second ⊢
  rw [lexemes_space, List.mapM_append, first, second]
  rfl

/-- A text without blanks whose bytes are all of one class is one lexeme. -/
theorem lexemes_of_word {text : GoString} (nonempty : text ≠ [])
    (words : ∀ b ∈ text, byteClass b = .word) : lexemes text = [text] := by
  have unbroken : (0x20 : UInt8) ∉ text := by
    intro blank
    have other := words 0x20 blank
    revert other
    decide
  have chain : text.IsChain fun a b => sameClass a b = true := by
    refine List.Pairwise.isChain (List.pairwise_of_forall_mem_list fun a first b second => ?_)
    rw [sameClass, words a first, words b second]
    rfl
  rw [lexemes, List.splitOn_eq_singleton unbroken, List.flatMap_singleton,
    List.splitBy_of_isChain nonempty chain]

theorem byteClass_digit {b : UInt8} (digit : isDigit b = true) : byteClass b = .word := by
  unfold byteClass
  rw [digit, Bool.or_true, Bool.true_or, Bool.true_or, if_pos rfl]

theorem tokens_placeholder (n : Nat) : tokens (0x24 :: decimal n) = some [.placeholder n] := by
  have digits : ∀ b ∈ decimal n, isDigit b = true := fun b => isDigit_of_mem_zeroPadded
  have words : ∀ b ∈ (0x24 : UInt8) :: decimal n, byteClass b = .word := by
    intro b member
    rcases List.mem_cons.1 member with rfl | member
    · decide
    · exact byteClass_digit (digits b member)
  have read : token (0x24 :: decimal n) = some (.placeholder n) := by
    have whole : decimal n ≠ [] ∧ (decimal n).all isDigit = true :=
      ⟨decimal_ne_nil n, List.all_eq_true.2 digits⟩
    rw [token, if_pos rfl, if_pos whole, decimal, digitsValue_zeroPadded]
  rw [tokens, lexemes_of_word (List.cons_ne_nil _ _) words]
  simp [read]

/-- A text that starts with a blank continues another. -/
def continuation (text : GoString) : Option (List Token) :=
  if text.head? = some 0x20 then tokens text else none

theorem tokens_append {a b : GoString} {s t : List Token} (first : tokens a = some s)
    (second : continuation b = some t) : tokens (a ++ b) = some (s ++ t) := by
  obtain ⟨blank, second⟩ := Option.ite_none_right_eq_some.1 second
  obtain ⟨rest, rfl⟩ := List.head?_eq_some_iff.1 blank
  have same : tokens (0x20 :: rest) = tokens rest := by
    rw [tokens, ← List.nil_append (0x20 :: rest), lexemes_space]
    rfl
  exact tokens_space first (same ▸ second)

/-- A clause to which only the number of a placeholder is missing: a blank in front, a blank and a
`$` at the end. -/
def clauseTokens (clause : GoString) : Option (List Token) :=
  match clause.reverse with
  | last :: blank :: front =>
      if last = 0x24 ∧ blank = 0x20 then continuation front.reverse else none
  | _ => none

/-- A clause with its number, behind a text. -/
theorem tokens_clause {text clause : GoString} {s t : List Token} (before : tokens text = some s)
    (read : clauseTokens clause = some t) (n : Nat) :
    tokens (text ++ clause ++ decimal n) = some (s ++ (t ++ [.placeholder n])) := by
  unfold clauseTokens at read
  split at read
  · rename_i last blank front ends
    obtain ⟨⟨rfl, rfl⟩, read⟩ := Option.ite_none_right_eq_some.1 read
    have shape : clause = front.reverse ++ [0x20, 0x24] := by
      rw [← List.reverse_reverse clause, ends]
      simp
    have apart : text ++ clause ++ decimal n =
        text ++ front.reverse ++ 0x20 :: (0x24 :: decimal n) := by simp [shape]
    rw [apart, ← List.append_assoc s]
    exact tokens_space (tokens_append before read) (tokens_placeholder n)
  · cases read

/-! ## Statements -/

inductive Operand where
  | column (name : GoString)
  | number (n : Nat)
  | placeholder (n : Nat)
deriving DecidableEq

structure Condition where
  left : Operand
  op : Operator
  right : Operand
deriving DecidableEq

inductive Direction where
  | asc
  | desc
deriving DecidableEq

/-- A `SELECT`.  It has at least one column and at least one condition. -/
structure Select where
  column : GoString
  columns : List GoString
  table : GoString
  condition : Condition
  conditions : List Condition := []
  orderBy : Option (GoString × Direction) := none
  limit : Option Operand := none
  offset : Option Operand := none
deriving DecidableEq

/-! ### Reading -/

def Token.operand : Token → Option Operand
  | .identifier name => some (.column name)
  | .number n => some (.number n)
  | .placeholder n => some (.placeholder n)
  | _ => none

def parseColumns : List Token → List GoString × List Token
  | .comma :: .identifier name :: rest =>
      let (columns, rest) := parseColumns rest
      (name :: columns, rest)
  | rest => ([], rest)

def parseConditions : List Token → List Condition × List Token
  | .keyword .and :: a :: .operator op :: b :: rest =>
      match a.operand, b.operand with
      | some left, some right =>
          let (conditions, rest) := parseConditions rest
          (⟨left, op, right⟩ :: conditions, rest)
      | _, _ => ([], .keyword .and :: a :: .operator op :: b :: rest)
  | rest => ([], rest)

/-- Without a direction the order is ascending. -/
def parseOrder : List Token → Option (GoString × Direction) × List Token
  | .keyword .order :: .keyword .by_ :: .identifier name :: .keyword .desc :: rest =>
      (some (name, .desc), rest)
  | .keyword .order :: .keyword .by_ :: .identifier name :: .keyword .asc :: rest =>
      (some (name, .asc), rest)
  | .keyword .order :: .keyword .by_ :: .identifier name :: rest => (some (name, .asc), rest)
  | rest => (none, rest)

/-- `LIMIT` or `OFFSET`. -/
def parseBound (k : Keyword) : List Token → Option Operand × List Token
  | .keyword k' :: a :: rest =>
      if k' = k then
        match a.operand with
        | some bound => (some bound, rest)
        | none => (none, .keyword k' :: a :: rest)
      else (none, .keyword k' :: a :: rest)
  | rest => (none, rest)

/-- What follows the first condition. -/
def parseTail (s : Select) (rest : List Token) : Option Select :=
  let (conditions, rest) := parseConditions rest
  let (orderBy, rest) := parseOrder rest
  let (limit, rest) := parseBound .limit rest
  let (offset, rest) := parseBound .offset rest
  if rest = [] then some { s with conditions, orderBy, limit, offset } else none

def parseTokens : List Token → Option Select
  | .keyword .select :: .identifier column :: rest =>
      match parseColumns rest with
      | (columns, .keyword .from_ :: .identifier table :: .keyword .where_ :: a :: .operator op ::
          b :: rest) => do
          let left ← a.operand
          let right ← b.operand
          parseTail { column, columns, table, condition := ⟨left, op, right⟩ } rest
      | _ => none
  | _ => none

def parse (text : GoString) : Option Select := (tokens text).bind parseTokens

/-! ### Writing -/

def Operand.token : Operand → Token
  | .column name => .identifier name
  | .number n => .number n
  | .placeholder n => .placeholder n

def Condition.tokens (c : Condition) : List Token := [c.left.token, .operator c.op, c.right.token]

def orderTokens : Option (GoString × Direction) → List Token
  | none => []
  | some (name, .asc) => [.keyword .order, .keyword .by_, .identifier name, .keyword .asc]
  | some (name, .desc) => [.keyword .order, .keyword .by_, .identifier name, .keyword .desc]

def boundTokens (k : Keyword) : Option Operand → List Token
  | none => []
  | some bound => [.keyword k, bound.token]

def columnTokens (columns : List GoString) : List Token :=
  columns.flatMap fun name => [.comma, .identifier name]

def conditionTokens (conditions : List Condition) : List Token :=
  conditions.flatMap fun c => .keyword .and :: c.tokens

/-- Everything up to the sort key. -/
def Select.head (s : Select) : List Token :=
  .keyword .select :: .identifier s.column :: (columnTokens s.columns ++
    .keyword .from_ :: .identifier s.table :: .keyword .where_ ::
      (s.condition.tokens ++ conditionTokens s.conditions))

def Select.tokens (s : Select) : List Token :=
  s.head ++ (orderTokens s.orderBy ++ (boundTokens .limit s.limit ++ boundTokens .offset s.offset))

@[simp] theorem operand_token (a : Operand) : a.token.operand = some a := by cases a <;> rfl

theorem parseColumns_tokens (columns : List GoString) {k : Keyword} (rest : List Token) :
    parseColumns (columnTokens columns ++ .keyword k :: rest) = (columns, .keyword k :: rest) := by
  induction columns with
  | nil => rfl
  | cons name columns ih =>
      show parseColumns (.comma :: .identifier name :: (columnTokens columns ++ _)) = _
      rw [parseColumns, ih]

/-- Conditions end where no `AND` follows. -/
theorem parseConditions_tokens (conditions : List Condition) {rest : List Token}
    (ends : rest.head? ≠ some (.keyword .and)) :
    parseConditions (conditionTokens conditions ++ rest) = (conditions, rest) := by
  induction conditions with
  | nil =>
      show parseConditions rest = _
      unfold parseConditions
      split
      · exact absurd rfl ends
      · rfl
  | cons c conditions ih =>
      show parseConditions (.keyword .and :: c.left.token :: .operator c.op :: c.right.token ::
        (conditionTokens conditions ++ rest)) = _
      rw [parseConditions, operand_token, operand_token]
      dsimp only
      rw [ih]

theorem parseOrder_tokens (orderBy : Option (GoString × Direction)) {rest : List Token}
    (ends : rest.head? ≠ some (.keyword .order)) :
    parseOrder (orderTokens orderBy ++ rest) = (orderBy, rest) := by
  rcases orderBy with - | ⟨name, - | -⟩
  · rw [orderTokens, List.nil_append]
    unfold parseOrder
    split
    all_goals first | exact absurd rfl ends | rfl
  · rfl
  · rfl

theorem parseBound_tokens (k : Keyword) (bound : Option Operand) {rest : List Token}
    (ends : rest.head? ≠ some (.keyword k)) :
    parseBound k (boundTokens k bound ++ rest) = (bound, rest) := by
  cases bound with
  | none =>
      rw [boundTokens, List.nil_append]
      unfold parseBound
      split
      · rename_i k' a rest
        have other : k' ≠ k := fun same => ends (same ▸ rfl)
        rw [if_neg other]
      · rfl
  | some bound =>
      show parseBound k (.keyword k :: bound.token :: rest) = _
      rw [parseBound, if_pos rfl, operand_token]

theorem head_boundTokens {k k' : Keyword} (other : k ≠ k') (bound : Option Operand)
    {rest : List Token} (ends : rest.head? ≠ some (.keyword k')) :
    (boundTokens k bound ++ rest).head? ≠ some (.keyword k') := by
  cases bound with
  | none => exact ends
  | some bound =>
      intro same
      cases same
      exact other rfl

theorem head_orderTokens (orderBy : Option (GoString × Direction)) {rest : List Token}
    (ends : rest.head? ≠ some (.keyword .and)) :
    (orderTokens orderBy ++ rest).head? ≠ some (.keyword .and) := by
  rcases orderBy with - | ⟨name, - | -⟩
  · exact ends
  · exact fun same => by cases same
  · exact fun same => by cases same

theorem parseTail_tokens (s : Select) :
    parseTail ⟨s.column, s.columns, s.table, s.condition, [], none, none, none⟩
      (conditionTokens s.conditions ++
        (orderTokens s.orderBy ++ (boundTokens .limit s.limit ++
          (boundTokens .offset s.offset ++ [])))) = some s := by
  have nothing : ∀ k, ([] : List Token).head? ≠ some (.keyword k) := fun k same => by cases same
  have offset : ∀ {k}, .offset ≠ k →
      (boundTokens .offset s.offset ++ []).head? ≠ some (.keyword k) :=
    fun other => head_boundTokens other s.offset (nothing _)
  have limit : ∀ {k}, .limit ≠ k → .offset ≠ k →
      (boundTokens .limit s.limit ++ (boundTokens .offset s.offset ++ [])).head? ≠
        some (.keyword k) :=
    fun other other' => head_boundTokens other s.limit (offset other')
  unfold parseTail
  rw [parseConditions_tokens _ (head_orderTokens _ (limit (by decide) (by decide)))]
  dsimp only
  rw [parseOrder_tokens _ (limit (by decide) (by decide))]
  dsimp only
  rw [parseBound_tokens _ _ (offset (by decide))]
  dsimp only
  rw [parseBound_tokens _ _ (nothing _), if_pos rfl]

/-- **Every statement is read from its own tokens.** -/
theorem parseTokens_tokens (s : Select) : parseTokens s.tokens = some s := by
  have tail := parseTail_tokens s
  rw [List.append_nil] at tail
  unfold Select.tokens Select.head
  simp only [Condition.tokens, List.append_assoc, List.cons_append, List.nil_append]
  rw [parseTokens, parseColumns_tokens]
  dsimp only
  rw [operand_token, operand_token]
  exact tail

/-- A text is read as the statement whose tokens it has. -/
theorem parse_of_tokens {text : GoString} {s : Select} (read : tokens text = some s.tokens) :
    parse text = some s := by
  rw [parse, read, Option.bind_some, parseTokens_tokens]

end SentinelOps.Theory.Sql
