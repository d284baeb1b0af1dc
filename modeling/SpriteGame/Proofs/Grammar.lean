import Mathlib.Data.List.Basic
import Mathlib.Data.List.Induction
import SpriteGame.Proofs.RoundTrip
/-!
# The grammar of rule lines

Which texts are interactions and terminations, said without a reader: a text is cut into
words (`Cut`), a word may assign a value to a key (`Assigns`), and a line has the parts that
its grammar gives it (`InteractionParts.Spelt`, `TerminationParts.Spelt`). The readers accept
these texts and no others, and give what the parts say (`readers_exact`).
-/
namespace SpriteGame

namespace Text

/-- The text is words with blanks between them, and blanks before and after them if any. -/
inductive Cut : List Char → List (List Char) → Prop
  | empty : Cut [] []
  | blank {c s ws} : isBlank c = true → Cut s ws → Cut (c :: s) ws
  | last {w} : w ≠ [] → (∀ c ∈ w, isBlank c = false) → Cut w [w]
  | word {w c s ws} : w ≠ [] → (∀ c ∈ w, isBlank c = false) → isBlank c = true → Cut s ws →
      Cut (w ++ c :: s) (w :: ws)

variable {s w : List Char} {ws : List (List Char)}

theorem Cut.words_eq (h : Cut s ws) : words s = ws := by
  induction h with
  | empty => rfl
  | blank hc _ ih => rw [words_blank_cons hc, ih]
  | last hne hw => exact words_of_solid hne hw
  | word hne hw hc _ ih => rw [words_append_blank hc, words_of_solid hne hw, ih, List.singleton_append]

theorem exists_cut (s : List Char) : ∃ ws, Cut s ws := by
  induction s with
  | nil => exact ⟨[], .empty⟩
  | cons c s ih =>
    obtain ⟨ws, h⟩ := ih
    cases hc : isBlank c with
    | true => exact ⟨ws, .blank hc h⟩
    | false =>
      -- The character starts a word, or goes in front of the one that the rest starts with.
      have hcons : ∀ {w : List Char}, (∀ d ∈ w, isBlank d = false) → ∀ d ∈ c :: w, isBlank d = false :=
        fun hw => List.forall_mem_cons.2 ⟨hc, hw⟩
      cases h with
      | empty => exact ⟨_, .last (List.cons_ne_nil c []) (hcons nofun)⟩
      | blank hd h => exact ⟨_, .word (List.cons_ne_nil c []) (hcons nofun) hd h⟩
      | last _ hw => exact ⟨_, .last (List.cons_ne_nil c _) (hcons hw)⟩
      | word _ hw hd h => exact ⟨_, .word (List.cons_ne_nil c _) (hcons hw) hd h⟩

theorem words_eq_iff : words s = ws ↔ Cut s ws := by
  refine ⟨fun h => ?_, Cut.words_eq⟩
  obtain ⟨vs, hcut⟩ := exists_cut s
  rwa [← h, hcut.words_eq]

end Text

open Text

namespace Reader

/-! ## Assignments -/

/-- The content of a text is what stands before its first `#`, if there is one. -/
def Uncommented (text content : List Char) : Prop :=
  '#' ∉ content ∧ (text = content ∨ ∃ comment, text = content ++ '#' :: comment)

theorem uncommented_dropComment (text : List Char) : Uncommented text (dropComment text) := by
  refine ⟨fun h => by simpa using List.mem_takeWhile_imp h, ?_⟩
  have hparts : dropComment text ++ text.dropWhile (· ≠ '#') = text := List.takeWhile_append_dropWhile
  cases hrest : text.dropWhile (· ≠ '#') with
  | nil => exact .inl (by rw [hrest, List.append_nil] at hparts; exact hparts.symm)
  | cons c comment =>
    have hc : c = '#' := by
      have hhead := List.head?_dropWhile_not (· ≠ '#') text
      rw [hrest] at hhead
      simpa using hhead
    exact .inr ⟨comment, by rw [← hc, ← hrest, hparts]⟩

theorem Uncommented.dropComment_eq {text content : List Char} (h : Uncommented text content) :
    dropComment text = content := by
  have hcontent : ∀ c ∈ content, decide (c ≠ '#') = true :=
    fun c hc => decide_eq_true fun he => h.1 (he ▸ hc)
  rcases h.2 with rfl | ⟨comment, rfl⟩
  · exact List.takeWhile_eq_self_iff.2 hcontent
  · rw [dropComment, List.takeWhile_append_of_pos hcontent, List.takeWhile_cons_of_neg (by decide), List.append_nil]

theorem uncommented_iff {text content : List Char} : Uncommented text content ↔ dropComment text = content :=
  ⟨Uncommented.dropComment_eq, fun h => h ▸ uncommented_dropComment text⟩

/-- The token is a key, an `=` and a value. The key is not empty, and the `=` is the first. -/
def Assigns (token : List Char) (key value : String) : Prop :=
  token = key.toList ++ '=' :: value.toList ∧ '=' ∉ key.toList ∧ key ≠ ""

def Assignment (token : List Char) : Prop := ∃ key value, Assigns token key value

theorem keyValue?_eq_some {token : List Char} {key value : String} :
    keyValue? token = some (key, value) ↔ Assigns token key value := by
  have hne : key ≠ "" ↔ key.toList ≠ [] := by simp
  rw [Assigns, hne]
  constructor
  · intro h
    unfold keyValue? at h
    split at h
    · next k ks rest hsplit =>
      obtain ⟨htoken, hkey⟩ := splitFirst_eq_some.1 hsplit
      obtain ⟨rfl, rfl⟩ := Prod.mk.inj (Option.some.inj h)
      rw [String.toList_ofList, String.toList_ofList]
      exact ⟨htoken, hkey, List.cons_ne_nil k ks⟩
    · cases h
  · rintro ⟨rfl, hkey, hne⟩
    exact keyValue?_eq hne hkey

theorem assignment_iff {token : List Char} : Assignment token ↔ (keyValue? token).isSome = true := by
  simp only [Assignment, ← keyValue?_eq_some, Option.isSome_iff_exists, Prod.exists]

/-- Every key has the value that the last of its assignments gives it, and no others are keys. -/
def LastAssigned (tokens : List (List Char)) (params : Params) : Prop :=
  ∀ key value, params.get? key = some value ↔
    ∃ before token after, tokens = before ++ token :: after ∧ Assigns token key value ∧
      ∀ later ∈ after, ∀ other, ¬ Assigns later key other

theorem lastAssigned_nil : LastAssigned [] SortedMap.empty := by
  intro key value
  simp

/-- The last element with a property, in a list that is one longer. -/
theorem exists_last_concat {α : Type} {l : List α} {a : α} {P Q : α → Prop} :
    (∃ before x after, l ++ [a] = before ++ x :: after ∧ P x ∧ ∀ y ∈ after, Q y) ↔
      P a ∨ Q a ∧ ∃ before x after, l = before ++ x :: after ∧ P x ∧ ∀ y ∈ after, Q y := by
  constructor
  · rintro ⟨before, x, after, hsplit, hx, hafter⟩
    rcases List.eq_nil_or_concat' after with rfl | ⟨after, y, rfl⟩
    · obtain ⟨-, hlast⟩ := List.append_inj' hsplit rfl
      exact .inl ((List.cons.inj hlast).1 ▸ hx)
    · rw [← List.cons_append, ← List.append_assoc] at hsplit
      obtain ⟨hsplit, hlast⟩ := List.append_inj' hsplit rfl
      obtain ⟨hafter, hy⟩ := List.forall_mem_append.1 hafter
      exact .inr ⟨(List.cons.inj hlast).1 ▸ hy y List.mem_cons_self, before, x, after, hsplit, hx, hafter⟩
  · rintro (ha | ⟨ha, before, x, after, rfl, hx, hafter⟩)
    · exact ⟨l, a, [], rfl, ha, nofun⟩
    · exact ⟨before, x, after ++ [a], by simp, hx, List.forall_mem_append.2 ⟨hafter, by simpa using ha⟩⟩

theorem LastAssigned.concat {tokens : List (List Char)} {params : Params} {token : List Char} {key value : String}
    (h : LastAssigned tokens params) (htoken : Assigns token key value) :
    LastAssigned (tokens ++ [token]) (params.insert key value) := by
  intro q v
  have hread : ∀ q v, Assigns token q v ↔ key = q ∧ value = v := by
    intro q v
    rw [← keyValue?_eq_some, keyValue?_eq_some.2 htoken, Option.some_inj, Prod.mk.injEq]
  simp only [exists_last_concat, hread, ← h q v]
  by_cases hq : key = q
  · subst hq
    simp
  · rw [SortedMap.get?_insert_of_ne _ _ (Ne.symm hq)]
    simp [hq]

/-! ## Reading assignments -/

theorem readParams_concat (line : Nat) (tokens : List (List Char)) (token : List Char) :
    readParams line (tokens ++ [token]) = readParams line tokens >>= fun params =>
      match keyValue? token with
      | some (key, value) => .ok (params.insert key value)
      | none => .error (.badLine line (.notKeyValue (String.ofList token))) := by
  rw [readParams, List.foldlM_append]
  exact bind_congr fun params => bind_pure _

/-- Words are read as parameters if all of them are assignments. -/
theorem readParams_spec (line : Nat) (tokens : List (List Char)) :
    (∃ params, readParams line tokens = .ok params ∧ (∀ token ∈ tokens, Assignment token) ∧ LastAssigned tokens params) ∨
    (∃ fault, readParams line tokens = .error (.badLine line fault)) ∧ ¬ ∀ token ∈ tokens, Assignment token := by
  induction tokens using List.reverseRecOn with
  | nil => exact .inl ⟨_, rfl, nofun, lastAssigned_nil⟩
  | append_singleton tokens token ih =>
    rw [readParams_concat, List.forall_mem_append, List.forall_mem_singleton]
    rcases ih with ⟨params, hread, hall, hlast⟩ | ⟨⟨fault, hread⟩, hnot⟩
    · rw [hread]
      cases hkey : keyValue? token with
      | some e =>
        have htoken : Assigns token e.1 e.2 := keyValue?_eq_some.1 hkey
        exact .inl ⟨_, rfl, ⟨hall, _, _, htoken⟩, hlast.concat htoken⟩
      | none => exact .inr ⟨⟨_, rfl⟩, fun h => by simp [assignment_iff, hkey] at h⟩
    · exact .inr ⟨⟨fault, by rw [hread]; rfl⟩, fun h => hnot h.1⟩

theorem readParams_eq_ok {line : Nat} {tokens : List (List Char)} {params : Params} :
    readParams line tokens = .ok params ↔ (∀ token ∈ tokens, Assignment token) ∧ LastAssigned tokens params := by
  rcases readParams_spec line tokens with ⟨params', hread, hall, hlast⟩ | ⟨⟨fault, hread⟩, hnot⟩
  · rw [hread, Except.ok.injEq]
    refine ⟨fun h => h ▸ ⟨hall, hlast⟩, fun h => SortedMap.ext_get? fun key => Option.ext fun value => ?_⟩
    exact (hlast key value).trans (h.2 key value).symm
  · rw [hread]
    exact ⟨nofun, fun h => absurd h.1 hnot⟩

end Reader

/-! ## The lines -/

/-- What stands in an interaction: two names or more, an effect and its assignments. -/
structure InteractionParts where
  first : List Char
  seconds : List (List Char)
  effect : List Char
  tokens : List (List Char)

/-- What stands in a termination. -/
structure TerminationParts where
  kind : List Char
  tokens : List (List Char)

namespace InteractionParts

/-- The text has these parts: its content is the names, the first `>`, and the effect with the words after it. -/
def Spelt (parts : InteractionParts) (text : List Char) : Prop :=
  ∃ names rest, Reader.Uncommented text (names ++ '>' :: rest) ∧ '>' ∉ names ∧
    Cut names (parts.first :: parts.seconds) ∧ parts.seconds ≠ [] ∧ Cut rest (parts.effect :: parts.tokens)

theorem spelt_iff {parts : InteractionParts} {text : List Char} :
    parts.Spelt text ↔ ∃ names rest, splitFirst '>' (Reader.dropComment text) = some (names, rest) ∧
      words names = parts.first :: parts.seconds ∧ parts.seconds ≠ [] ∧ words rest = parts.effect :: parts.tokens := by
  simp only [Spelt, Reader.uncommented_iff, splitFirst_eq_some, words_eq_iff, and_assoc]

/-- One rule for every name after the first. -/
def rules (parts : InteractionParts) (params : Params) (line : Nat) : List InteractionDef :=
  parts.seconds.map fun second =>
    ⟨String.ofList parts.first, String.ofList second, String.ofList parts.effect, params, line⟩

end InteractionParts

namespace TerminationParts

def Spelt (parts : TerminationParts) (text : List Char) : Prop :=
  ∃ content, Reader.Uncommented text content ∧ Cut content (parts.kind :: parts.tokens)

theorem spelt_iff {parts : TerminationParts} {text : List Char} :
    parts.Spelt text ↔ words (Reader.dropComment text) = parts.kind :: parts.tokens := by
  simp only [Spelt, Reader.uncommented_iff, words_eq_iff, exists_eq_left']

def rule (parts : TerminationParts) (params : Params) (line : Nat) : TerminationDef :=
  ⟨String.ofList parts.kind, params, line⟩

end TerminationParts

namespace Reader

section

variable {line : Nat} {text : List Char}

theorem readInteraction_of_spelt {parts : InteractionParts} (h : parts.Spelt text) :
    readInteraction line text = (readParams line parts.tokens).map fun params => parts.rules params line := by
  obtain ⟨names, rest, hsplit, hnames, hseconds, hrest⟩ := InteractionParts.spelt_iff.1 h
  obtain ⟨second, others, hothers⟩ := List.exists_cons_of_ne_nil hseconds
  rw [hothers] at hnames
  rw [readInteraction, hsplit]
  dsimp only
  rw [hnames, hrest]
  unfold InteractionParts.rules
  rw [hothers]
  rfl

theorem readInteraction_of_not_spelt (h : ¬ ∃ parts : InteractionParts, parts.Spelt text) :
    ∃ fault, readInteraction line text = .error (.badLine line fault) := by
  unfold readInteraction
  split
  · exact ⟨_, rfl⟩
  · next names rest hsplit =>
    split
    · next first second others hnames =>
      split
      · exact ⟨_, rfl⟩
      · next effect tokens hrest =>
        exact absurd ⟨⟨first, second :: others, effect, tokens⟩, InteractionParts.spelt_iff.2
          ⟨names, rest, hsplit, hnames, List.cons_ne_nil second others, hrest⟩⟩ h
    · exact ⟨_, rfl⟩

theorem readTermination_of_spelt {parts : TerminationParts} (h : parts.Spelt text) :
    readTermination line text = (readParams line parts.tokens).map fun params => parts.rule params line := by
  rw [readTermination, TerminationParts.spelt_iff.1 h]
  rfl

theorem readTermination_of_not_spelt (h : ¬ ∃ parts : TerminationParts, parts.Spelt text) :
    ∃ fault, readTermination line text = .error (.badLine line fault) := by
  unfold readTermination
  split
  · exact ⟨_, rfl⟩
  · next kind tokens hwords => exact absurd ⟨⟨kind, tokens⟩, TerminationParts.spelt_iff.2 hwords⟩ h

end

/-- A line is read exactly if it has its parts and these end in assignments. It says what the
parts say, and a line that is not read has one problem, which is its own. -/
structure Exact {σ α : Type} (line : Nat) (result : Except Problem α) (spelt : σ → Prop)
    (tokens : σ → List (List Char)) (meaning : σ → Params → α) : Prop where
  accepted : (∃ a, result = .ok a) ↔ ∃ parts, spelt parts ∧ ∀ token ∈ tokens parts, Assignment token
  said : ∀ parts, spelt parts → (∀ token ∈ tokens parts, Assignment token) →
    ∃ params, LastAssigned (tokens parts) params ∧ result = .ok (meaning parts params)
  rejected : (¬ ∃ a, result = .ok a) → ∃ fault, result = .error (.badLine line fault)

section

variable {σ α : Type} {line : Nat} {result : Except Problem α} {spelt : σ → Prop} {tokens : σ → List (List Char)}
  {meaning : σ → Params → α} (hspelt : ∀ parts, spelt parts → result = (readParams line (tokens parts)).map (meaning parts))
  (hnot : (¬ ∃ parts, spelt parts) → ∃ fault, result = .error (.badLine line fault))
include hspelt hnot

theorem eq_ok_of_parts {a : α} : result = .ok a ↔ ∃ parts params, spelt parts ∧
    (∀ token ∈ tokens parts, Assignment token) ∧ LastAssigned (tokens parts) params ∧ a = meaning parts params := by
  constructor
  · intro ha
    by_cases hsome : ∃ parts, spelt parts
    · obtain ⟨parts, hparts⟩ := hsome
      rw [hspelt parts hparts] at ha
      obtain ⟨params, hparams, ha⟩ := ok_of_bind ha
      obtain ⟨hall, hlast⟩ := readParams_eq_ok.1 hparams
      exact ⟨parts, params, hparts, hall, hlast, (Except.ok.inj ha).symm⟩
    · obtain ⟨fault, herror⟩ := hnot hsome
      rw [herror] at ha
      cases ha
  · rintro ⟨parts, params, hparts, hall, hlast, rfl⟩
    rw [hspelt parts hparts, readParams_eq_ok.2 ⟨hall, hlast⟩]
    rfl

theorem exact_of_parts : Exact line result spelt tokens meaning := by
  have hsaid : ∀ parts, spelt parts → (∀ token ∈ tokens parts, Assignment token) →
      ∃ params, LastAssigned (tokens parts) params ∧ result = .ok (meaning parts params) := by
    intro parts hparts hall
    rcases readParams_spec line (tokens parts) with ⟨params, -, -, hlast⟩ | ⟨-, hfault⟩
    · exact ⟨params, hlast, (eq_ok_of_parts hspelt hnot).2 ⟨parts, params, hparts, hall, hlast, rfl⟩⟩
    · exact absurd hall hfault
  refine ⟨⟨fun ⟨a, ha⟩ => ?_, fun ⟨parts, hparts, hall⟩ => ?_⟩, hsaid, fun hok => ?_⟩
  · obtain ⟨parts, -, hparts, hall, -⟩ := (eq_ok_of_parts hspelt hnot).1 ha
    exact ⟨parts, hparts, hall⟩
  · obtain ⟨params, -, hok⟩ := hsaid parts hparts hall
    exact ⟨_, hok⟩
  · by_cases hsome : ∃ parts, spelt parts
    · obtain ⟨parts, hparts⟩ := hsome
      rcases readParams_spec line (tokens parts) with ⟨params, -, hall, hlast⟩ | ⟨⟨fault, hread⟩, -⟩
      · exact absurd ⟨_, (eq_ok_of_parts hspelt hnot).2 ⟨parts, params, hparts, hall, hlast, rfl⟩⟩ hok
      · exact ⟨fault, by rw [hspelt parts hparts, hread]; rfl⟩
    · exact hnot hsome

end

theorem readInteraction_eq_ok {line : Nat} {text : List Char} {rules : List InteractionDef} :
    readInteraction line text = .ok rules ↔ ∃ (parts : InteractionParts) (params : Params), parts.Spelt text ∧
      (∀ token ∈ parts.tokens, Assignment token) ∧ LastAssigned parts.tokens params ∧ rules = parts.rules params line :=
  eq_ok_of_parts (fun _ => readInteraction_of_spelt) readInteraction_of_not_spelt

theorem readTermination_eq_ok {line : Nat} {text : List Char} {rule : TerminationDef} :
    readTermination line text = .ok rule ↔ ∃ (parts : TerminationParts) (params : Params), parts.Spelt text ∧
      (∀ token ∈ parts.tokens, Assignment token) ∧ LastAssigned parts.tokens params ∧ rule = parts.rule params line :=
  eq_ok_of_parts (fun _ => readTermination_of_spelt) readTermination_of_not_spelt

/-- Interactions and terminations are read exactly by their grammar. -/
theorem readers_exact (line : Nat) (text : List Char) :
    Exact line (readInteraction line text) (fun parts : InteractionParts => parts.Spelt text)
      (fun parts => parts.tokens) (fun parts params => parts.rules params line) ∧
    Exact line (readTermination line text) (fun parts : TerminationParts => parts.Spelt text)
      (fun parts => parts.tokens) (fun parts params => parts.rule params line) :=
  ⟨exact_of_parts (fun _ => readInteraction_of_spelt) readInteraction_of_not_spelt,
    exact_of_parts (fun _ => readTermination_of_spelt) readTermination_of_not_spelt⟩

example : readInteraction 3 "a b c > d x=1 y= x=2 # e".toList =
    .ok [⟨"a", "b", "d", .ofList [("x", "2"), ("y", "")], 3⟩, ⟨"a", "c", "d", .ofList [("x", "2"), ("y", "")], 3⟩] := by
  rfl

/-- It is not enough that an `=` stands behind the first character: a word that starts with
one has no key, and the line is rejected although the word has another `=`. -/
theorem readInteraction_keyless :
    (∃ parts : InteractionParts, parts.Spelt "a b > c =a=b".toList ∧
      ∀ token ∈ parts.tokens, ∃ i, 0 < i ∧ token[i]? = some '=') ∧
    ¬ ∃ rules, readInteraction 1 "a b > c =a=b".toList = .ok rules := by
  refine ⟨⟨⟨['a'], [['b']], ['c'], ["=a=b".toList]⟩, ?_, ?_⟩, ?_⟩
  · exact InteractionParts.spelt_iff.2 ⟨"a b ".toList, " c =a=b".toList, by decide, by decide, by decide, by decide⟩
  · intro token htoken
    obtain rfl := List.mem_singleton.1 htoken
    exact ⟨2, by decide, by decide⟩
  · have hread : readInteraction 1 "a b > c =a=b".toList = .error (.badLine 1 (.notKeyValue "=a=b")) := by rfl
    rw [hread]
    rintro ⟨rules, h⟩
    cases h

end Reader

end SpriteGame
