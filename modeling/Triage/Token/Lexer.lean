import Triage.Token

/-!
Cutting filter text into tokens. The text is first cut into pieces, each a token or a blank between tokens, whose
texts joined are the whole text; then the pieces are given their places.
-/

namespace Triage

namespace Text

def isContentChar (c : Char) : Bool :=
  !isBlank c && !isControl c && c != '(' && c != ')' && c != '"' && c != '|' && c != '&'

/-- The characters of a bare word. A colon ends it, because it makes the word a qualifier's name. -/
def isWordChar (c : Char) : Bool := isContentChar c && c != ':'

def keywords : List Text := ["and".toList, "or".toList, "not".toList]

def isNegationSign (c : Char) : Bool := c == '~' || c == '!' || c == '-'

def isBareWord (t : Text) : Bool :=
  match t with
  | [] => false
  | c :: _ => !isNegationSign c && t.all isWordChar && !keywords.any (sameWord t)

end Text

namespace Lexer

open Text

structure Piece where
  kind : Option Token.Kind
  text : Text
  deriving DecidableEq, Repr

def token (kind : Token.Kind) (text : Text) : Piece := ⟨some kind, text⟩

def string (cs : Text) : Piece × Text :=
  let inner := cs.takeWhile (· != '"')
  match cs.dropWhile (· != '"') with
  | [] => (token (.fault .unterminatedString) ('"' :: inner), [])
  | quote :: rest => (token (.content (some inner)) ('"' :: inner ++ [quote]), rest)

def content (cs : Text) : List Piece × Text :=
  match cs with
  | '"' :: rest => ([(string rest).1], (string rest).2)
  | _ =>
    match cs.takeWhile isContentChar with
    | [] => ([], cs)
    | run => ([token (.content none) run], cs.dropWhile isContentChar)

def wordKind (word : Text) : Token.Kind :=
  if sameWord word "and".toList then .conjunction
  else if sameWord word "or".toList then .disjunction
  else if sameWord word "not".toList then .negation
  else .content none

def word (c : Char) (cs : Text) : List Piece × Text :=
  let run := c :: cs.takeWhile isWordChar
  match cs.dropWhile isWordChar with
  | ':' :: rest => (token .name run :: token .colon [':'] :: (content rest).1, (content rest).2)
  | rest => ([token (wordKind run) run], rest)

/-- An operator sign, which may be written twice. -/
def operator (kind : Token.Kind) (sign : Char) : Text → List Piece × Text
  | c :: cs => if c = sign then ([token kind [sign, c]], cs) else ([token kind [sign]], c :: cs)
  | [] => ([token kind [sign]], [])

def step (c : Char) (cs : Text) : List Piece × Text :=
  if c = '(' then ([token .leftParen [c]], cs)
  else if c = ')' then ([token .rightParen [c]], cs)
  else if c = '&' then operator .conjunction c cs
  else if c = '|' then operator .disjunction c cs
  else if isNegationSign c then ([token .negation [c]], cs)
  else if c = ':' then ([token .colon [c]], cs)
  else if c = '"' then ([(string cs).1], (string cs).2)
  else if isBlank c then ([⟨none, [c]⟩], cs)
  else if isControl c then ([token (.fault .controlCharacter) [c]], cs)
  else word c cs

def join (pieces : List Piece) : Text := pieces.flatMap Piece.text

@[simp] theorem join_nil : join [] = [] := rfl

@[simp] theorem join_cons (p : Piece) (ps : List Piece) : join (p :: ps) = p.text ++ join ps := by
  simp [join]

theorem join_append (ps qs : List Piece) : join (ps ++ qs) = join ps ++ join qs := by
  simp [join]

theorem text_string (cs : Text) : (string cs).1.text ++ (string cs).2 = '"' :: cs := by
  have whole := List.takeWhile_append_dropWhile (p := (· != '"')) (l := cs)
  unfold string
  split <;> simp_all [token]

theorem join_content (cs : Text) : join (content cs).1 ++ (content cs).2 = cs := by
  unfold content
  split
  · simp [text_string]
  · split
    · simp
    · simp [token]

theorem join_word (c : Char) (cs : Text) : join (word c cs).1 ++ (word c cs).2 = c :: cs := by
  have whole := List.takeWhile_append_dropWhile (p := isWordChar) (l := cs)
  unfold word
  dsimp only
  split
  · next rest h => simpa [token, join_content, h] using whole
  · simp [token, whole]

theorem join_operator (kind : Token.Kind) (sign : Char) (cs : Text) :
    join (operator kind sign cs).1 ++ (operator kind sign cs).2 = sign :: cs := by
  unfold operator
  split
  · split <;> simp_all [token]
  · simp [token]

theorem join_step (c : Char) (cs : Text) : join (step c cs).1 ++ (step c cs).2 = c :: cs := by
  unfold step
  repeat' split
  all_goals simp_all [token, join_operator, join_word, text_string]

theorem length_string (cs : Text) : (string cs).2.length ≤ cs.length := by
  have rest := (List.dropWhile_sublist (· != '"') (l := cs)).length_le
  unfold string
  split <;> simp_all; omega

theorem length_content (cs : Text) : (content cs).2.length ≤ cs.length := by
  unfold content
  split
  · next rest => exact Nat.le_succ_of_le (length_string rest)
  · split
    · exact Nat.le_refl _
    · exact (List.dropWhile_sublist isContentChar).length_le

theorem length_word (c : Char) (cs : Text) : (word c cs).2.length ≤ cs.length := by
  have rest := (List.dropWhile_sublist isWordChar (l := cs)).length_le
  unfold word
  dsimp only
  split
  · next rest' h =>
      have := length_content rest'
      rw [h, List.length_cons] at rest
      exact Nat.le_of_lt (Nat.lt_of_le_of_lt this rest)
  · exact rest

theorem length_operator (kind : Token.Kind) (sign : Char) (cs : Text) :
    (operator kind sign cs).2.length ≤ cs.length := by
  unfold operator
  split
  · split <;> simp
  · exact Nat.le_refl _

theorem length_step (c : Char) (cs : Text) : (step c cs).2.length ≤ cs.length := by
  unfold step
  repeat' split
  all_goals simp [length_operator, length_string, length_word]

def pieces : Text → List Piece
  | [] => []
  | c :: cs => (step c cs).1 ++ pieces (step c cs).2
termination_by t => t.length
decreasing_by exact Nat.lt_succ_of_le (length_step c cs)

theorem join_pieces (t : Text) : join (pieces t) = t := by
  fun_induction pieces t with
  | case1 => rfl
  | case2 c cs ih => rw [join_append, ih, join_step]

def locate (p : Position) : List Piece → List Token
  | [] => []
  | ⟨none, text⟩ :: ps => locate (p.advanceOver text) ps
  | ⟨some kind, text⟩ :: ps => ⟨kind, text, p⟩ :: locate (p.advanceOver text) ps

end Lexer

namespace Token

def scan (source : Text) : List Token := Lexer.locate .origin (Lexer.pieces source)

def finish (source : Text) : Token := ⟨.finish, [], Position.origin.advanceOver source⟩

def all (source : Text) : List Token := scan source ++ [finish source]

end Token

end Triage
