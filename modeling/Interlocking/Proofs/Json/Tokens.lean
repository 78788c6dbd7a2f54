/-
The tokens of a written value.

What a text is made of can be told part by part: a part is read as some tokens if it
is, whatever was read before it (`Exact`). A number is the one part of which the end
cannot be seen until something follows, so the parts that may end in one are read up
to that (`Reads`), and the writer puts behind a value only what ends a number.
-/
import Interlocking.Json.Print
import Interlocking.Json.Token
import Mathlib.Data.List.Forall2
import Mathlib.Tactic.IntervalCases

set_option autoImplicit false

namespace Interlocking.Json

/-! ## The tokens of a value -/

/-- Parts with commas between them. -/
def Token.separated : List (List Token) → List Token
  | [] => []
  | part :: rest => part ++ rest.flatMap (Token.comma :: ·)

mutual

/-- The tokens of a value. -/
def tokensOf : Json → List Token
  | .null => [.null]
  | .bool b => [.bool b]
  | .number n => [.number (.ofNat n)]
  | .string s => [.string s]
  | .array items => .beginArray :: Token.separated (itemTokens items) ++ [.endArray]
  | .object members => .beginObject :: Token.separated (memberTokens members) ++ [.endObject]

/-- The tokens of items. -/
def itemTokens : List Json → List (List Token)
  | [] => []
  | v :: vs => tokensOf v :: itemTokens vs

/-- The tokens of members. -/
def memberTokens : List (String × Json) → List (List Token)
  | [] => []
  | m :: ms => memberToken m :: memberTokens ms

/-- The tokens of a member. -/
def memberToken : String × Json → List Token
  | (key, v) => .string key :: .colon :: tokensOf v

end

/-! ## Parts of a text -/

/-- Whether a character that stands behind a value ends it. -/
def endsValue (c : Char) : Bool := c = ',' || c = ']' || c = '\x7d' || c = '\n'

/-- The reader may be in the middle of a number; but if the text ends or the value
does, it is the last of the tokens. -/
structure Lexer.Holds (x : Lexer) (tokens : List Token) : Prop where
  finish : x.finish = tokens.reverse
  step : ∀ c, endsValue c = true → x.step c = Lexer.start ⟨tokens, .between⟩ c

/-- A text is read as some tokens, and then it is finished. -/
def Exact (text : List Char) (tokens : List Token) : Prop :=
  ∀ done, text.foldl Lexer.step ⟨done, .between⟩ = ⟨tokens.reverse ++ done, .between⟩

/-- A text is read as some tokens when it ends or when the value ends. -/
def Reads (text : List Char) (tokens : List Token) : Prop :=
  ∀ done, (text.foldl Lexer.step ⟨done, .between⟩).Holds (tokens.reverse ++ done)

variable {a b : List Char} {ts us : List Token}

theorem Exact.reads (h : Exact a ts) : Reads a ts := by
  intro done
  rw [h done]
  exact ⟨rfl, fun _ _ => rfl⟩

theorem Exact.nil : Exact [] [] := fun _ => rfl

theorem Exact.append (ha : Exact a ts) (hb : Exact b us) : Exact (a ++ b) (ts ++ us) := by
  intro done
  rw [List.foldl_append, ha, hb, List.reverse_append, List.append_assoc]

theorem Exact.append_reads (ha : Exact a ts) (hb : Reads b us) : Reads (a ++ b) (ts ++ us) := by
  intro done
  rw [List.foldl_append, ha, List.reverse_append, List.append_assoc]
  exact hb _

theorem Reads.append {c : Char} (ha : Reads a ts) (hc : endsValue c = true)
    (hb : Exact (c :: b) us) : Exact (a ++ c :: b) (ts ++ us) := by
  intro done
  rw [List.foldl_append, List.foldl_cons, (ha done).step c hc]
  exact (hb _).trans (by rw [List.reverse_append, List.append_assoc])

theorem Reads.append_reads {c : Char} (ha : Reads a ts) (hc : endsValue c = true)
    (hb : Reads (c :: b) us) : Reads (a ++ c :: b) (ts ++ us) := by
  intro done
  rw [List.foldl_append, List.foldl_cons, (ha done).step c hc, List.reverse_append,
    List.append_assoc]
  exact hb _

theorem Reads.tokens_eq (h : Reads a ts) : tokens a = ts := by
  rw [tokens, (h []).finish, List.append_nil, List.reverse_reverse]

/-! ## Blanks and commas -/

theorem exact_newline (depth : Nat) : Exact (newline depth) [] := by
  have hblanks : ∀ n, Exact (List.replicate n ' ') [] := by
    intro n
    induction n with
    | zero => exact .nil
    | succ n ih => exact fun done => ih done
  exact fun done => hblanks _ done

theorem commas_cons (part : List Char) (rest : List (List Char)) :
    commas (part :: rest) = part ++ rest.flatMap (',' :: ·) := by
  induction rest generalizing part with
  | nil => simp [commas]
  | cons next rest ih => rw [commas, ih, List.flatMap_cons, List.cons_append]

/-- Parts that are read one by one are read with commas between them. -/
theorem Reads.commas {parts : List (List Char)} {tokens : List (List Token)}
    (h : List.Forall₂ Reads parts tokens) (ha : Reads a ts) :
    Reads (a ++ parts.flatMap (',' :: ·)) (ts ++ tokens.flatMap (Token.comma :: ·)) := by
  induction h generalizing a ts with
  | nil => simpa using ha
  | @cons part us parts tokens hpart _ ih =>
    have hcomma : Exact [','] [.comma] := fun _ => rfl
    have hnext := ih (ha.append_reads (c := ',') rfl (hcomma.append_reads hpart))
    simpa using hnext

/-! ## Numbers -/

/-- What is remembered in the middle of a written number. -/
def stageOf (n : Nat) : Numeral.Stage := if n = 0 then .zero else .whole

theorem foldl_chars (n : Nat) (done : List Token) :
    (Decimal.chars n).foldl Lexer.step ⟨done, .between⟩ =
      ⟨done, .number (.ofNat n) (stageOf n)⟩ := by
  have hfirst : ∀ d < 10, Lexer.step ⟨done, .between⟩ (Nat.digitChar d) =
      ⟨done, .number (.ofNat d) (stageOf d)⟩ := by
    intro d hd
    interval_cases d <;> rfl
  have hnext : ∀ d < 10, ∀ m, Lexer.step ⟨done, .number (.ofNat m) .whole⟩ (Nat.digitChar d) =
      ⟨done, .number (.ofNat (10 * m + d)) .whole⟩ := by
    intro d hd m
    interval_cases d <;> rfl
  induction n using Nat.strongRecOn with
  | ind n ih =>
    by_cases h : n < 10
    · rw [Decimal.chars_of_lt h]
      exact hfirst n h
    · have hwhole : ∀ m, m ≠ 0 → stageOf m = .whole := fun m hm => if_neg hm
      have hlast := hnext (n % 10) (Nat.mod_lt _ (by decide)) (n / 10)
      have hsum : 10 * (n / 10) + n % 10 = n := Nat.div_add_mod n 10
      rw [Decimal.chars_of_le (by omega), List.foldl_append, ih (n / 10) (by omega),
        hwhole _ (by omega), hwhole _ (by omega), List.foldl_cons, List.foldl_nil]
      rwa [hsum] at hlast

theorem reads_number (n : Nat) : Reads (Decimal.chars n) [.number (.ofNat n)] := by
  intro done
  have hstage : stageOf n = .zero ∨ stageOf n = .whole := by
    rw [stageOf]
    split <;> simp
  rw [foldl_chars]
  refine ⟨?_, fun c hc => ?_⟩
  · rcases hstage with h | h <;> rw [h] <;> rfl
  · simp only [endsValue, Bool.or_eq_true, decide_eq_true_eq] at hc
    rcases hc with ((rfl | rfl) | rfl) | rfl <;> rcases hstage with h | h <;> rw [h] <;> rfl

/-! ## Strings -/

/-- A character is read back from the escape that it is written as. -/
theorem foldl_escape (c : Char) (done : List Token) (units : List Nat) :
    (escape c).foldl Lexer.step ⟨done, .string units⟩ = ⟨done, .string (c.toNat :: units)⟩ := by
  rw [escape.eq_def]
  split
  iterate 7 rfl
  next hquote hbackslash _ _ _ _ _ =>
    split
    next hcontrol =>
      -- Two zeros, and then the number of the character in two digits.
      have hdigit : ∀ d : Fin 16, hexDigit? (Nat.digitChar d) = some d.val := by decide
      have hhigh : hexDigit? (Nat.digitChar (c.toNat / 16)) = some (c.toNat / 16) :=
        hdigit ⟨c.toNat / 16, by omega⟩
      have hlow : hexDigit? (Nat.digitChar (c.toNat % 16)) = some (c.toNat % 16) :=
        hdigit ⟨c.toNat % 16, by omega⟩
      have hzero : hexDigit? '0' = some 0 := by decide
      have hsum : 16 * (c.toNat / 16) + c.toNat % 16 = c.toNat := Nat.div_add_mod _ 16
      simp [Lexer.step, Lexer.inString, Lexer.goOn, hhigh, hlow, hzero, hsum]
    next hplain =>
      have hq : c ≠ '"' := fun h => hquote h
      have hb : c ≠ '\\' := fun h => hbackslash h
      simp [Lexer.step, Lexer.inString, Lexer.goOn, hq, hb, hplain]

/-- The code units of a text have the text as their characters. -/
theorem charsOfUnits_map (text cs : List Char) :
    charsOfUnits text (cs.map Char.toNat) = some (cs.reverse ++ text) := by
  have hchar : ∀ c : Char, isLowSurrogate c.toNat = false ∧ isHighSurrogate c.toNat = false := by
    intro c
    have hvalid : c.toNat < 0xD800 ∨ 0xDFFF < c.toNat ∧ c.toNat < 0x110000 := c.valid
    simp only [isLowSurrogate, isHighSurrogate, Bool.and_eq_false_iff, decide_eq_false_iff_not]
    omega
  induction cs generalizing text with
  | nil => rfl
  | cons c cs ih =>
    obtain ⟨hlow, hhigh⟩ := hchar c
    cases cs with
    | nil => simp [charsOfUnits, hlow, hhigh, Char.ofNat_toNat]
    | cons d cs =>
      rw [List.map_cons, List.map_cons, charsOfUnits, hlow, hhigh, Char.ofNat_toNat]
      simpa using ih (c :: text)

theorem exact_quote (s : String) : Exact (quote s) [.string s] := by
  have hinside : ∀ (cs : List Char) done units, (cs.flatMap escape).foldl Lexer.step
      ⟨done, .string units⟩ = ⟨done, .string ((cs.map Char.toNat).reverse ++ units)⟩ := by
    intro cs done
    induction cs with
    | nil => exact fun units => rfl
    | cons c cs ih =>
      intro units
      rw [List.flatMap_cons, List.foldl_append, foldl_escape, ih]
      simp
  intro done
  have hopen : Lexer.step ⟨done, .between⟩ '"' = ⟨done, .string []⟩ := rfl
  have htoken : Token.ofUnits (s.toList.map Char.toNat).reverse = .string s := by
    rw [Token.ofUnits, ← List.map_reverse, charsOfUnits_map, List.reverse_reverse, List.append_nil]
    exact congrArg Token.string String.ofList_toList
  rw [quote, List.cons_append, List.foldl_cons, hopen, List.foldl_append, hinside, List.append_nil,
    List.foldl_cons, List.foldl_nil, ← htoken]
  rfl

/-! ## Values -/

/-- Lines between brackets. -/
theorem exact_block {depth : Nat} {opening closing : Char} {first last : Token}
    (hfirst : Exact [opening] [first]) (hlast : Exact [closing] [last])
    {parts : List (List Char)} {tokens : List (List Token)}
    (h : List.Forall₂ Reads parts tokens) :
    Exact (block depth opening closing parts) (first :: Token.separated tokens ++ [last]) := by
  have hend : Exact (newline depth ++ [closing]) [last] := (exact_newline depth).append hlast
  cases h with
  | nil => exact hfirst.append hlast
  | @cons part us parts tokens hpart hparts =>
    have hline : ∀ {text ts}, Reads text ts → Reads (newline (depth + 1) ++ text) ts :=
      fun h => (exact_newline (depth + 1)).append_reads h
    have hlines : List.Forall₂ Reads (parts.map (newline (depth + 1) ++ ·)) tokens :=
      List.forall₂_map_left_iff.2 (hparts.imp fun _ _ h => hline h)
    have hinside := hfirst.append_reads ((hline hpart).commas hlines)
    have hall := hinside.append (c := '\n') rfl hend
    rw [block]
    · rw [List.map_cons, commas_cons]
      simpa [Token.separated, newline] using hall
    · simp

mutual

theorem reads_tidyChars (depth : Nat) : ∀ v : Json, Reads (tidyChars depth v) (tokensOf v)
  | .null => Exact.reads fun _ => rfl
  | .bool true => Exact.reads fun _ => rfl
  | .bool false => Exact.reads fun _ => rfl
  | .number n => reads_number n
  | .string s => (exact_quote s).reads
  | .array items =>
    (exact_block (fun _ => rfl) (fun _ => rfl) (reads_tidyItems depth items)).reads
  | .object members =>
    (exact_block (fun _ => rfl) (fun _ => rfl) (reads_tidyMembers depth members)).reads

theorem reads_tidyItems (depth : Nat) :
    ∀ vs : List Json, List.Forall₂ Reads (tidyItems depth vs) (itemTokens vs)
  | [] => .nil
  | v :: vs => .cons (reads_tidyChars (depth + 1) v) (reads_tidyItems depth vs)

theorem reads_tidyMembers (depth : Nat) :
    ∀ ms : List (String × Json), List.Forall₂ Reads (tidyMembers depth ms) (memberTokens ms)
  | [] => .nil
  | m :: ms => .cons (reads_tidyMember depth m) (reads_tidyMembers depth ms)

theorem reads_tidyMember (depth : Nat) :
    ∀ m : String × Json, Reads (tidyMember depth m) (memberToken m)
  | (key, v) => by
    have hcolon : Exact [':', ' '] [.colon] := fun _ => rfl
    have hall := ((exact_quote key).append hcolon).append_reads (reads_tidyChars (depth + 1) v)
    simpa [tidyMember, memberToken] using hall

end

/-- **The tidy text of a value** has the tokens of the value. -/
theorem tokens_tidy (v : Json) : tokens v.tidy.toList = tokensOf v := by
  rw [tidy, String.toList_ofList]
  exact (reads_tidyChars 0 v).tokens_eq

/-! ## The compact form

The same without the lines. A number may now stand directly in front of a bracket,
which ends it like a line does. -/

/-- Parts between brackets, with nothing but commas between them. -/
theorem exact_brackets {opening closing : Char} {first last : Token}
    (hfirst : Exact [opening] [first]) (hlast : Exact [closing] [last])
    (hends : endsValue closing = true) {parts : List (List Char)} {tokens : List (List Token)}
    (h : List.Forall₂ Reads parts tokens) :
    Exact (opening :: commas parts ++ [closing]) (first :: Token.separated tokens ++ [last]) := by
  cases h with
  | nil => exact hfirst.append hlast
  | @cons part us parts tokens hpart hparts =>
    have hinside := hfirst.append_reads (hpart.commas hparts)
    have hall := hinside.append hends hlast
    rw [commas_cons]
    simpa [Token.separated] using hall

mutual

theorem reads_chars : ∀ v : Json, Reads (chars v) (tokensOf v)
  | .null => Exact.reads fun _ => rfl
  | .bool true => Exact.reads fun _ => rfl
  | .bool false => Exact.reads fun _ => rfl
  | .number n => reads_number n
  | .string s => (exact_quote s).reads
  | .array items =>
    (exact_brackets (fun _ => rfl) (fun _ => rfl) rfl (reads_itemChars items)).reads
  | .object members =>
    (exact_brackets (fun _ => rfl) (fun _ => rfl) rfl (reads_memberChars members)).reads

theorem reads_itemChars : ∀ vs : List Json, List.Forall₂ Reads (itemChars vs) (itemTokens vs)
  | [] => .nil
  | v :: vs => .cons (reads_chars v) (reads_itemChars vs)

theorem reads_memberChars :
    ∀ ms : List (String × Json), List.Forall₂ Reads (memberChars ms) (memberTokens ms)
  | [] => .nil
  | m :: ms => .cons (reads_memberChar m) (reads_memberChars ms)

theorem reads_memberChar : ∀ m : String × Json, Reads (memberChar m) (memberToken m)
  | (key, v) => by
    have hcolon : Exact [':'] [.colon] := fun _ => rfl
    have hall := ((exact_quote key).append hcolon).append_reads (reads_chars v)
    simpa [memberChar, memberToken] using hall

end

/-- **The compact text of a value** has the tokens of the value. -/
theorem tokens_compact (v : Json) : tokens v.compact.toList = tokensOf v := by
  rw [compact, String.toList_ofList]
  exact (reads_chars v).tokens_eq

end Interlocking.Json
