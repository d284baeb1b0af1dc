import SpriteGame.Proofs.Lexing
import SpriteGame.Settings.Basic
/-!
# Saved settings

Settings come back from the text that they are written as, and so do settings that
were read from any text (`load_render`).
-/
namespace SpriteGame.Settings

open Json

/-! ## The text as tokens -/

/-- A member on a line of its own. -/
def memberLine (name value : List Char) : List Char :=
  "\n  \"".toList ++ name ++ "\": ".toList ++ value

theorem memberLine_eq (name value : List Char) :
    memberLine name value = '\n' :: ' ' :: ' ' :: '"' :: (name ++ '"' :: ':' :: ' ' :: value) := by
  unfold memberLine
  simp

theorem lexes_memberLine {name value rest : List Char} {t : Token} {ts : List Token} (hname : ∀ c ∈ name, Plain c)
    (hvalue : token? (value ++ rest) = some (t, rest)) (h : Lexes rest ts) :
    Lexes (memberLine name value ++ rest) (.text (some name) :: .colon :: t :: ts) := by
  have hline : memberLine name value ++ rest
      = '\n' :: ' ' :: ' ' :: '"' :: (name ++ '"' :: ':' :: ' ' :: (value ++ rest)) := by
    simp [memberLine_eq]
  rw [hline]
  refine .blank rfl <| .blank rfl <| .blank rfl <| .token (token?_quoted hname _) ?_
  exact .token rfl <| .blank rfl <| .token hvalue h

/-- The text of a tick limit. -/
def ticksText : Option UInt64 → List Char
  | none => "null".toList
  | some n => Nat.toDigits 10 n.toNat

def ticksToken : Option UInt64 → Token
  | none => .null
  | some n => .number (some n.toNat)

theorem render_eq (s : Settings) :
    s.render = '\x7b' :: (memberLine Key.blockSize.text.toList (Nat.toDigits 10 s.blockSize.toNat)
      ++ ',' :: (memberLine Key.maxTicks.text.toList (ticksText s.maxTicks)
      ++ ',' :: (memberLine Key.seed.text.toList (Nat.toDigits 10 s.seed.toNat) ++ ['\n', '\x7d']))) := by
  unfold render
  cases s.maxTicks <;> simp [memberLine_eq, ticksText, Key.text]

theorem token?_ticksText (ticks : Option UInt64) {rest : List Char} (hend : EndsNumber rest) :
    token? (ticksText ticks ++ rest) = some (ticksToken ticks, rest) := by
  cases ticks with
  | none => rfl
  | some n => exact token?_toDigits n.toNat hend

/-- The tokens of written settings. -/
def tokens (s : Settings) : List Token :=
  [.beginObject, .text (some Key.blockSize.text.toList), .colon, .number (some s.blockSize.toNat),
    .comma, .text (some Key.maxTicks.text.toList), .colon, ticksToken s.maxTicks,
    .comma, .text (some Key.seed.text.toList), .colon, .number (some s.seed.toNat), .endObject]

/-- Names stand for themselves between quotes. -/
theorem plain_text (key : Key) : ∀ c ∈ key.text.toList, Plain c := by
  have hall : key.text.toList.all (Plain ·) = true := by cases key <;> decide
  exact fun c hc => of_decide_eq_true (List.all_eq_true.1 hall c hc)

theorem lexes_render (s : Settings) : Lexes s.render s.tokens := by
  have hcomma : ∀ rest, EndsNumber (',' :: rest) := fun _ c hc => by cases hc; decide
  have hline : EndsNumber ['\n', '\x7d'] := fun c hc => by cases hc; decide
  rw [render_eq]
  refine .token rfl <| lexes_memberLine (plain_text _) (token?_toDigits _ (hcomma _)) ?_
  refine .token rfl <| lexes_memberLine (plain_text _) (token?_ticksText _ (hcomma _)) ?_
  refine .token rfl <| lexes_memberLine (plain_text _) (token?_toDigits _ hline) ?_
  exact .blank rfl <| .token rfl .nil

/-! ## The tokens as a value -/

def ticksValue : Option UInt64 → Value
  | none => .null
  | some n => .number (some n.toNat)

/-- The value of written settings. -/
def members (s : Settings) : List (Option (List Char) × Value) :=
  [(some Key.blockSize.text.toList, .number (some s.blockSize.toNat)),
    (some Key.maxTicks.text.toList, ticksValue s.maxTicks),
    (some Key.seed.text.toList, .number (some s.seed.toNat))]

theorem json_read?_render (s : Settings) : Json.read? s.render = some (.object s.members) := by
  have htokens : tokens? s.render = some s.tokens := tokens?_eq_some_iff.2 s.lexes_render
  have hvalue : readValue (2 * s.tokens.length) s.tokens = some (.object s.members, []) := by
    unfold tokens members
    cases s.maxTicks <;> rfl
  simp [Json.read?, htokens, hvalue]

/-! ## The value as settings -/

theorem natural?_number {bound n : Nat} (hn : n < bound) : natural? bound (.number (some n)) = some n :=
  if_pos hn

theorem set?_blockSize (s : Settings) (n : UInt32) :
    s.set? .blockSize (.number (some n.toNat)) = some { s with blockSize := n } := by
  simp [set?, natural?_number n.toNat_lt]

theorem set?_maxTicks (s : Settings) (ticks : Option UInt64) :
    s.set? .maxTicks (ticksValue ticks) = some { s with maxTicks := ticks } := by
  cases ticks with
  | none => rfl
  | some n => simp [set?, ticksValue, natural?_number n.toNat_lt]

theorem set?_seed (s : Settings) (n : UInt64) :
    s.set? .seed (.number (some n.toNat)) = some { s with seed := n } := by
  simp [set?, natural?_number n.toNat_lt]

/-- A name counts as the setting that it is the text of. -/
theorem ofText?_text (key : Key) : Key.ofText? key.text.toList = some key := by
  cases key <;> rfl

theorem setMembers?_cons {s : Settings} {seen : List Key} {key : Key} (hkey : key ∉ seen) (v : Value)
    (rest : List (Option (List Char) × Value)) :
    s.setMembers? seen ((some key.text.toList, v) :: rest)
      = (s.set? key v).bind fun s => s.setMembers? (key :: seen) rest := by
  rw [setMembers?, ofText?_text]
  exact if_neg hkey

/-- Every setting is among the members, so nothing stays of what was there before. -/
theorem setMembers?_members (s t : Settings) : t.setMembers? [] s.members = some s := by
  unfold members
  rw [setMembers?_cons (by decide), set?_blockSize, Option.bind_some,
    setMembers?_cons (by decide), set?_maxTicks, Option.bind_some,
    setMembers?_cons (by decide), set?_seed, Option.bind_some]
  rfl

theorem withBlock_of_ne_zero {s : Settings} (h : s.blockSize ≠ 0) : s.withBlock = s := if_neg h

theorem blockSize_withBlock (s : Settings) : s.withBlock.blockSize ≠ 0 := by
  unfold withBlock
  split
  · exact (by decide : defaultBlockSize ≠ 0)
  · assumption

theorem load?_render {s : Settings} (h : s.blockSize ≠ 0) : load? (some s.render) = some s := by
  rw [load?, read?, json_read?_render]
  simp [setMembers?_members, withBlock_of_ne_zero h]

/-- What is read is repaired last. -/
theorem exists_withBlock_of_read? {text : List Char} {s : Settings} (h : read? text = some s) :
    ∃ t : Settings, t.withBlock = s := by
  unfold read? at h
  split at h
  · exact (Option.map_eq_some_iff.1 h).imp fun _ => And.right
  · exact (Option.map_eq_some_iff.1 h).imp fun _ => And.right
  · cases h

theorem blockSize_of_read? {text : List Char} {s : Settings} (h : read? text = some s) : s.blockSize ≠ 0 := by
  obtain ⟨t, rfl⟩ := exists_withBlock_of_read? h
  exact t.blockSize_withBlock

/-- Settings with a block size come back from the text that they are saved as, and what is
read from any text has a block size and so comes back too. -/
theorem load_render :
    (∀ s : Settings, s.blockSize ≠ 0 → load? (some s.render) = some s) ∧
    ∀ (text : List Char) (s : Settings), read? text = some s →
      1 ≤ s.blockSize ∧ load? (some s.render) = some s := by
  refine ⟨fun s h => load?_render h, fun text s h => ?_⟩
  have hblock := blockSize_of_read? h
  have hpos : 1 ≤ s.blockSize := by
    have hne : s.blockSize.toNat ≠ 0 := fun h0 => hblock (UInt32.toNat_inj.1 h0)
    exact UInt32.le_iff_toNat_le.2 (Nat.pos_of_ne_zero hne)
  exact ⟨hpos, load?_render hblock⟩

/-- The largest numbers, and no tick limit. -/
def extremes : Settings := ⟨4294967295, none, 18446744073709551615⟩

/-- A text with a block size of zero and no seed. -/
def zeroBlock : List Char := "\x7b \"block_size\": 0, \"max_ticks\": null \x7d".toList

theorem load_render_extremes :
    extremes.blockSize ≠ 0 ∧ load? (some extremes.render) = some extremes ∧
    read? zeroBlock = some ⟨10, none, 0⟩ ∧ load? (some (render ⟨10, none, 0⟩)) = some ⟨10, none, 0⟩ := by
  have hextremes : extremes.blockSize ≠ 0 := by decide
  have hread : read? zeroBlock = some ⟨10, none, 0⟩ := by decide +kernel
  exact ⟨hextremes, load_render.1 extremes hextremes, hread, (load_render.2 zeroBlock _ hread).2⟩

end SpriteGame.Settings
