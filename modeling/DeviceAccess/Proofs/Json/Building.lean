import Mathlib
import DeviceAccess.Json.Printer
import DeviceAccess.Json.Token
import DeviceAccess.Proofs.Document.Tree
import DeviceAccess.Proofs.Text.Cut

/-!
# Trees from their tokens

A tree is spelled by tokens: brackets around the containers, commas between what they hold, and a
colon behind each key. The text of a value in one line has the same shape. Building a tree from
tokens is the way back.

- `Json.tokens` are the tokens of a tree, whatever keys and leaves are as tokens.
- `Json.treeOfTokens?_tokens` says that they build the tree, with and without commas before the end
  of a container.
-/

namespace DeviceAccess

open Text

variable {κ α : Type}

/-! ## §1 Trees and their tokens -/

namespace Json

/-- The tokens of a tree. `asLeaf` says what a key would be as a leaf, and `asKey` what a leaf would
be as a key. -/
def tokens (asLeaf : κ → Option α) (asKey : α → Option κ) : Tree κ α → List (Token κ α)
  | .leaf v => [.scalar (asKey v) (some v)]
  | .array items => [.openArray] ++ ofItems items ++ [.closeArray]
  | .object members => [.openObject] ++ ofMembers members ++ [.closeObject]
where
  ofItems : List (Tree κ α) → List (Token κ α)
    | [] => []
    | [t] => tokens asLeaf asKey t
    | t :: rest => tokens asLeaf asKey t ++ [.comma] ++ ofItems rest
  ofMembers : List (κ × Tree κ α) → List (Token κ α)
    | [] => []
    | [(k, t)] => [.scalar (some k) (asLeaf k), .colon] ++ tokens asLeaf asKey t
    | (k, t) :: rest =>
      [.scalar (some k) (asLeaf k), .colon] ++ tokens asLeaf asKey t ++ [.comma] ++ ofMembers rest

section

variable (asLeaf : κ → Option α) (asKey : α → Option κ)

/-- The tokens of a member: its key, a colon and its value. -/
def memberTokens (member : κ × Tree κ α) : List (Token κ α) :=
  [.scalar (some member.1) (asLeaf member.1), .colon] ++ tokens asLeaf asKey member.2

theorem tokens_array (items : List (Tree κ α)) :
    tokens asLeaf asKey (.array items) =
      [.openArray] ++ joinWith [.comma] (items.map (tokens asLeaf asKey)) ++ [.closeArray] := by
  have hitems : tokens.ofItems asLeaf asKey items =
      joinWith [.comma] (items.map (tokens asLeaf asKey)) :=
    eq_joinWith_map rfl (fun _ => rfl) (fun _ _ _ => rfl) items
  rw [tokens, hitems]

theorem tokens_object (members : List (κ × Tree κ α)) :
    tokens asLeaf asKey (.object members) =
      [.openObject] ++ joinWith [.comma] (members.map (memberTokens asLeaf asKey)) ++
        [.closeObject] := by
  have hmembers : tokens.ofMembers asLeaf asKey members =
      joinWith [.comma] (members.map (memberTokens asLeaf asKey)) :=
    eq_joinWith_map rfl (fun _ => rfl) (fun _ _ _ => rfl) members
  rw [tokens, hmembers]

end

namespace Value

/-- A member in one line: its key, a colon and its value. -/
def memberChars (member : String × Value) : List Char :=
  quote member.1 ++ [':'] ++ compactChars member.2

theorem compactChars_array (items : List Value) :
    compactChars (.array items) = ['['] ++ joinWith [','] (items.map compactChars) ++ [']'] := by
  have hitems : compactChars.ofItems items = joinWith [','] (items.map compactChars) :=
    eq_joinWith_map rfl (fun _ => rfl) (fun _ _ _ => rfl) items
  rw [compactChars, hitems]

theorem compactChars_object (members : List (String × Value)) :
    compactChars (.object members) =
      ['{'] ++ joinWith [','] (members.map memberChars) ++ ['}'] := by
  have hmembers : compactChars.ofMembers members = joinWith [','] (members.map memberChars) :=
    eq_joinWith_map rfl (fun _ => rfl) (fun _ _ _ => rfl) members
  rw [compactChars, hmembers]

end Value

/-! ## §2 What tokens build -/

/-- Reading the tokens leads from one document in the making to another. -/
def Reaches (trailing : Bool) (b : Building κ α) (spelling : List (Token κ α))
    (b' : Building κ α) : Prop :=
  spelling.foldlM (Building.step trailing) b = some b'

section

variable {trailing : Bool} {b b' b'' : Building κ α} {spelling more : List (Token κ α)}

theorem Reaches.single {token : Token κ α} (h : b.step trailing token = some b') :
    Reaches trailing b [token] b' := by
  unfold Reaches
  rw [List.foldlM_cons, h]
  rfl

theorem Reaches.append (h : Reaches trailing b spelling b') (h' : Reaches trailing b' more b'') :
    Reaches trailing b (spelling ++ more) b'' := by
  unfold Reaches at h h' ⊢
  rw [List.foldlM_append, h]
  exact h'

end

/-- The tokens put a tree into whatever container is open where a value is awaited. -/
def Builds (spelling : List (Token κ α)) (t : Tree κ α) : Prop :=
  ∀ (trailing mayClose : Bool) (frames : List (Frame κ α)) (b : Building κ α),
    settle frames t = some b → Reaches trailing (.inside frames (.value mayClose)) spelling b

theorem builds_leaf (key : Option κ) (v : α) : Builds [.scalar key (some v)] (.leaf v) := by
  intro trailing mayClose frames b hsettle
  apply Reaches.single
  cases mayClose <;> exact hsettle

/-- What is read with commas between comes into an open container one after the other. `awaiting`
and `behind` are the container before and after something is read, with what it holds, last first;
a comma leads back to the former. -/
theorem reaches_joined {β : Type} {trailing : Bool} {spell : β → List (Token κ α)}
    (awaiting : Bool → List β → Building κ α) (behind : List β → Building κ α) {xs : List β}
    (hne : xs ≠ [])
    (hread : ∀ x ∈ xs, ∀ mayClose before,
      Reaches trailing (awaiting mayClose before) (spell x) (behind (x :: before)))
    (hcomma : ∀ before, Reaches trailing (behind before) [.comma] (awaiting trailing before))
    (mayClose : Bool) (before : List β) :
    Reaches trailing (awaiting mayClose before) (joinWith [.comma] (xs.map spell))
      (behind (xs.reverse ++ before)) := by
  induction xs generalizing mayClose before with
  | nil => exact absurd rfl hne
  | cons first rest ih =>
    have hfirst := hread first List.mem_cons_self mayClose before
    cases rest with
    | nil => exact hfirst
    | cons second rest =>
      have hlater := ih (List.cons_ne_nil second rest)
        (fun x hx => hread x (List.mem_cons_of_mem first hx)) trailing (first :: before)
      rw [List.reverse_cons, List.append_assoc]
      exact (hfirst.append (hcomma (first :: before))).append hlater

theorem builds_array {spell : Tree κ α → List (Token κ α)} {items : List (Tree κ α)}
    (hitems : ∀ t ∈ items, Builds (spell t) t) :
    Builds ([.openArray] ++ joinWith [.comma] (items.map spell) ++ [.closeArray])
      (.array items) := by
  intro trailing mayClose frames b hsettle
  have hopen : Reaches trailing (.inside frames (.value mayClose)) [.openArray]
      (.inside (.array [] :: frames) (.value true)) := by
    apply Reaches.single
    cases mayClose <;> rfl
  -- an array may end where its first item is awaited, or behind an item, but not behind a comma
  by_cases hempty : items = []
  · subst hempty
    have hclose : Reaches trailing (.inside (.array [] :: frames) (.value true)) [.closeArray] b :=
      .single hsettle
    exact hopen.append hclose
  · have hread : Reaches trailing (.inside (.array [] :: frames) (.value true))
        (joinWith [.comma] (items.map spell))
        (.inside (.array (items.reverse ++ []) :: frames) .separator) := by
      apply reaches_joined (fun m held => .inside (.array held :: frames) (.value m))
        (fun held => .inside (.array held :: frames) .separator) hempty
      · intro t ht mayClose before
        exact hitems t ht trailing mayClose _ _ rfl
      · intro before
        exact .single rfl
    have hclose : Reaches trailing (.inside (.array (items.reverse ++ []) :: frames) .separator)
        [.closeArray] b := by
      apply Reaches.single
      show settle frames (.array (items.reverse ++ []).reverse) = some b
      rw [List.append_nil, List.reverse_reverse]
      exact hsettle
    exact (hopen.append hread).append hclose

/-- The tokens put a member into an open object where a key is awaited. -/
def BuildsMember (spelling : List (Token κ α)) (member : κ × Tree κ α) : Prop :=
  ∀ (trailing mayClose : Bool) (before : List (κ × Tree κ α)) (frames : List (Frame κ α)),
    Reaches trailing (.inside (.object before none :: frames) (.key mayClose)) spelling
      (.inside (.object (member :: before) none :: frames) .separator)

theorem Builds.member {spelling : List (Token κ α)} {t : Tree κ α} (h : Builds spelling t)
    (key : κ) (value : Option α) :
    BuildsMember ([.scalar (some key) value, .colon] ++ spelling) (key, t) := by
  intro trailing mayClose before frames
  have hkey : Reaches trailing (.inside (.object before none :: frames) (.key mayClose))
      [.scalar (some key) value] (.inside (.object before (some key) :: frames) .colon) := by
    apply Reaches.single
    cases mayClose <;> rfl
  have hcolon : Reaches trailing (.inside (.object before (some key) :: frames) .colon) [.colon]
      (.inside (.object before (some key) :: frames) (.value false)) := .single rfl
  exact (hkey.append hcolon).append (h trailing false _ _ rfl)

theorem builds_object {spell : κ × Tree κ α → List (Token κ α)} {members : List (κ × Tree κ α)}
    (hmembers : ∀ m ∈ members, BuildsMember (spell m) m) :
    Builds ([.openObject] ++ joinWith [.comma] (members.map spell) ++ [.closeObject])
      (.object members) := by
  intro trailing mayClose frames b hsettle
  have hopen : Reaches trailing (.inside frames (.value mayClose)) [.openObject]
      (.inside (.object [] none :: frames) (.key true)) := by
    apply Reaches.single
    cases mayClose <;> rfl
  by_cases hempty : members = []
  · subst hempty
    have hclose : Reaches trailing (.inside (.object [] none :: frames) (.key true))
        [.closeObject] b := .single hsettle
    exact hopen.append hclose
  · have hread : Reaches trailing (.inside (.object [] none :: frames) (.key true))
        (joinWith [.comma] (members.map spell))
        (.inside (.object (members.reverse ++ []) none :: frames) .separator) := by
      apply reaches_joined (fun m held => .inside (.object held none :: frames) (.key m))
        (fun held => .inside (.object held none :: frames) .separator) hempty
      · intro m hm mayClose before
        exact hmembers m hm trailing mayClose before frames
      · intro before
        exact .single rfl
    have hclose : Reaches trailing
        (.inside (.object (members.reverse ++ []) none :: frames) .separator) [.closeObject] b := by
      apply Reaches.single
      show settle frames (.object (members.reverse ++ []).reverse) = some b
      rw [List.append_nil, List.reverse_reverse]
      exact hsettle
    exact (hopen.append hread).append hclose

/-! ## §3 Whole trees -/

theorem builds_tokens (asLeaf : κ → Option α) (asKey : α → Option κ) (t : Tree κ α) :
    Builds (tokens asLeaf asKey t) t := by
  induction t using Tree.memberInduction with
  | leaf v => exact builds_leaf (asKey v) v
  | array items ih =>
    rw [tokens_array]
    exact builds_array ih
  | object members ih =>
    rw [tokens_object]
    apply builds_object
    intro m hm
    exact (ih m hm).member m.1 (asLeaf m.1)

/-- **The tokens of a tree build the tree**, be a comma before the end of a container allowed or
not. -/
theorem treeOfTokens?_tokens (trailing : Bool) (asLeaf : κ → Option α) (asKey : α → Option κ)
    (t : Tree κ α) : treeOfTokens? trailing (tokens asLeaf asKey t) = some t := by
  have hread : Reaches trailing (.inside [] (.value false)) (tokens asLeaf asKey t) (.complete t) :=
    builds_tokens asLeaf asKey t trailing false [] (.complete t) rfl
  unfold treeOfTokens?
  rw [hread]

end Json

end DeviceAccess
