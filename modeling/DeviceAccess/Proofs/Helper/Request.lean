import Mathlib
import DeviceAccess.Helper.Message
import DeviceAccess.Proofs.Json.Strict
import DeviceAccess.Proofs.Text.Utf8

/-!
# What the octets of a request say

The octets of a request are a document of the strict notation. Whatever stands in an argument of the
command stays between its quotes, so that it can neither add a member to the document nor take the
place of one, and no two requests have the same octets.

- `IsDocumentOf` are the members of the document, written out for each command.
- `parse?_text` reads the document, by the law of the notation for whole values.
- `IsDocumentOf.unique` says that the document belongs to one request only.
-/

namespace DeviceAccess

open Text

namespace Request

/-! ## §1 The document -/

/-- The members of the document of a request, in order. -/
inductive IsDocumentOf (id : UInt32) : Command → List (String × Json.Value) → Prop where
  | ping : IsDocumentOf id .ping
      [("commandId", .nat id.toNat), ("protocolVersion", .nat 1), ("type", .string "ping")]
  | shouldEnroll (user : String) : IsDocumentOf id (.shouldEnroll user)
      [("commandId", .nat id.toNat), ("protocolVersion", .nat 1),
        ("type", .string "shouldEnrollDevice"), ("userId", .string user)]
  | deviceInfo (attributes : List String) : IsDocumentOf id (.deviceInfo attributes)
      [("commandId", .nat id.toNat), ("protocolVersion", .nat 1), ("type", .string "deviceInfo"),
        ("attributes", .array (attributes.map Json.Value.string))]

variable {id id' : UInt32} {command command' : Command} {members : List (String × Json.Value)}

theorem exists_isDocumentOf (id : UInt32) (command : Command) :
    ∃ members, toValue ⟨id, command⟩ = .object members ∧ IsDocumentOf id command members := by
  cases command with
  | ping => exact ⟨_, rfl, .ping⟩
  | shouldEnroll user => exact ⟨_, rfl, .shouldEnroll user⟩
  | deviceInfo attributes => exact ⟨_, rfl, .deviceInfo attributes⟩

namespace IsDocumentOf

/-- No key is repeated. -/
theorem nodup (h : IsDocumentOf id command members) : (members.map Prod.fst).Nodup := by
  cases h with
  | ping => simp
  | shouldEnroll user => simp
  | deviceInfo attributes => simp

/-- The document belongs to one request only. -/
theorem unique (h : IsDocumentOf id command members) (h' : IsDocumentOf id' command' members) :
    id' = id ∧ command' = command := by
  generalize hmembers : members = members' at h'
  -- documents of different commands differ in the name of the command or in length
  cases h with
  | ping =>
    cases h' with
    | ping =>
      simp only [List.cons.injEq, Prod.mk.injEq, Json.Value.nat_inj, UInt32.toNat_inj] at hmembers
      exact ⟨hmembers.1.2.symm, rfl⟩
    | shouldEnroll user => simp at hmembers
    | deviceInfo attributes => simp at hmembers
  | shouldEnroll user =>
    cases h' with
    | ping => simp at hmembers
    | shouldEnroll user' =>
      simp only [List.cons.injEq, Prod.mk.injEq, Json.Value.nat_inj, Json.Value.string_inj,
        UInt32.toNat_inj] at hmembers
      obtain ⟨⟨-, rfl⟩, -, -, ⟨-, rfl⟩, -⟩ := hmembers
      exact ⟨rfl, rfl⟩
    | deviceInfo attributes => simp at hmembers
  | deviceInfo attributes =>
    cases h' with
    | ping => simp at hmembers
    | shouldEnroll user => simp at hmembers
    | deviceInfo attributes' =>
      simp only [List.cons.injEq, Prod.mk.injEq, Json.Value.nat_inj, UInt32.toNat_inj,
        Tree.array.injEq] at hmembers
      obtain ⟨⟨-, rfl⟩, -, -, ⟨-, hattributes⟩, -⟩ := hmembers
      have hinjective : Function.Injective Json.Value.string :=
        fun _ _ hsame => Json.Value.string_inj.mp hsame
      exact ⟨rfl, congrArg Command.deviceInfo (hinjective.list_map hattributes).symm⟩

/-- Every leaf can be read: the texts whatever is in them, and the numbers because they are small. -/
theorem allLeaves (h : IsDocumentOf id command members) :
    (Tree.object members).AllLeaves Json.Scalar.IsWritable := by
  have hid : id.toNat < limit64 := lt_trans id.toNat_lt (by decide)
  have hnumber := Json.Value.allLeaves_nat hid
  have hversion := Json.Value.allLeaves_nat (n := 1) (by decide)
  have htext := Json.Value.allLeaves_string
  apply Tree.AllLeaves.object
  cases h with
  | ping => simp [hnumber, hversion, htext]
  | shouldEnroll user => simp [hnumber, hversion, htext]
  | deviceInfo attributes =>
    have harray : (Tree.array (attributes.map Json.Value.string)).AllLeaves
        Json.Scalar.IsWritable := by
      apply Tree.AllLeaves.array
      simp [htext]
    simp [hnumber, hversion, htext, harray]

/-- The document is an object, and at most one of its members is an array of texts. -/
theorem depth_le (h : IsDocumentOf id command members) :
    (Tree.object members).depth ≤ Json.maxDepth := by
  have hlimit : 2 ≤ Json.maxDepth := by decide
  cases h with
  | ping =>
    show 1 ≤ Json.maxDepth
    omega
  | shouldEnroll user =>
    show 1 ≤ Json.maxDepth
    omega
  | deviceInfo attributes =>
    have htexts : (Tree.array (attributes.map Json.Value.string)).depth = 1 := by
      apply Tree.depth_array_of_leaves
      simp [Json.Value.string, Tree.depth]
    simp only [Tree.depth, Tree.depth.depthOfMembers, Json.Value.nat, Json.Value.string] at htexts ⊢
    omega

end IsDocumentOf

/-! ## §2 The octets -/

theorem parse?_text {r : Request} (h : r.toValue = .object members)
    (hdocument : IsDocumentOf r.id r.command members) :
    Json.parse? r.text = some (.object members) := by
  rw [text, h]
  exact Json.parse?_compact hdocument.allLeaves hdocument.depth_le

/-- The octets can be read back. -/
theorem exists_parse?_octets (r : Request) :
    ∃ members, (textOfUtf8? r.octets).bind Json.parse? = some (.object members) ∧
      IsDocumentOf r.id r.command members := by
  obtain ⟨members, hvalue, hdocument⟩ := exists_isDocumentOf r.id r.command
  have htext : textOfUtf8? r.octets = some r.text := textOfUtf8?_eq_some_iff.mpr rfl
  refine ⟨members, ?_, hdocument⟩
  rw [htext, Option.bind_some]
  exact parse?_text hvalue hdocument

/-- **The octets of a request** are the document of that request and of no other: its keys are those
of the command, each once, and its values are the number, the version of the protocol, the name of
the command and the arguments as they were given. -/
theorem exists_document_octets (id : UInt32) (command : Command) :
    ∃ members,
      (textOfUtf8? (octets ⟨id, command⟩)).bind Json.parse? = some (.object members) ∧
        IsDocumentOf id command members ∧ (members.map Prod.fst).Nodup ∧
        ∀ id' command', octets ⟨id', command'⟩ = octets ⟨id, command⟩ →
          id' = id ∧ command' = command := by
  obtain ⟨members, hread, hdocument⟩ := exists_parse?_octets ⟨id, command⟩
  refine ⟨members, hread, hdocument, hdocument.nodup, ?_⟩
  intro id' command' hsame
  -- the octets are read as one document only, and both requests are what it says
  obtain ⟨members', hread', hdocument'⟩ := exists_parse?_octets ⟨id', command'⟩
  have hmembers : members' = members := by
    rw [hsame, hread] at hread'
    simpa using hread'.symm
  rw [hmembers] at hdocument'
  exact hdocument.unique hdocument'

end Request

end DeviceAccess
