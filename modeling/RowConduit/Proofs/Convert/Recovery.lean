import RowConduit.Proofs.Calendar.Instant
import RowConduit.Proofs.Convert.Binary
import RowConduit.Proofs.Convert.Typing
import RowConduit.Proofs.Json.Document
import RowConduit.Proofs.Value.Uuid

/-!
# Values come back from their JSON form

A value of a type whose texts can be read again is recovered by coercing what its JSON form is read
as.  Map keys travel as the names of an object; since the key is read back from its name, distinct
keys have distinct names, and no entry replaces another.
-/

namespace RowConduit

open RowConduit.Text RowConduit.Number RowConduit.Calendar

namespace LogicalType

/-- The values of the type can be read back from the name of an object member. -/
def isName : LogicalType → Bool
  | .bool => true
  | .int => true
  | .numericString => true
  | .string => true
  | _ => false

/-- The values of the type can be read back from their JSON form. -/
def isPortable : LogicalType → Bool
  | .float => false
  | .json => false
  | .array element => element.isPortable
  | .map key value => key.isName && value.isPortable
  | _ => true

end LogicalType

namespace SqlValue

mutual

/-- Instants have years of four digits, and the keys of every map are present and distinct. -/
def Recoverable : SqlValue → Prop
  | .timestamp ts => 0 ≤ ts.utc.date.year ∧ ts.utc.date.year ≤ 9999
  | .array items => ItemsRecoverable items
  | .map entries =>
      (entries.map (·.1)).Nodup ∧ .null ∉ entries.map (·.1) ∧ EntriesRecoverable entries
  | _ => True

def ItemsRecoverable : List SqlValue → Prop
  | [] => True
  | item :: rest => item.Recoverable ∧ ItemsRecoverable rest

def EntriesRecoverable : List (SqlValue × SqlValue) → Prop
  | [] => True
  | (_, value) :: rest => value.Recoverable ∧ EntriesRecoverable rest

end

theorem itemsRecoverable_iff {items : List SqlValue} :
    ItemsRecoverable items ↔ ∀ item ∈ items, item.Recoverable := by
  induction items with
  | nil => simp [ItemsRecoverable]
  | cons item rest ih => simp [ItemsRecoverable, ih]

theorem entriesRecoverable_iff {entries : List (SqlValue × SqlValue)} :
    EntriesRecoverable entries ↔ ∀ entry ∈ entries, entry.2.Recoverable := by
  induction entries with
  | nil => simp [EntriesRecoverable]
  | cons entry rest ih => simp [EntriesRecoverable, ih]

def keyName (key : SqlValue) : String :=
  match key with
  | .text s => s
  | other => other.toJson.render

theorem entriesToJson_eq_map (entries : List (SqlValue × SqlValue)) :
    entriesToJson entries = entries.map fun entry => (keyName entry.1, entry.2.toJson) := by
  induction entries with
  | nil => rfl
  | cons entry rest ih =>
      obtain ⟨key, value⟩ := entry
      cases key <;> simp [entriesToJson, keyName, ih]

end SqlValue

namespace Coercion

open SqlValue

variable (field : String)

theorem toNumericString_numeral {s : String} (numeral : IsNumeral s) :
    toNumericString field (.text s) = .ok (.text s) := by
  have found : numeralOfText? s = some (.text s) := by
    rw [numeralOfText?, trimmed, numeral.bare, if_pos numeral.literal, String.ofList_toList]
  rw [toNumericString, found]

theorem toInt_intText (i : Int64) :
    toInt field (.text (String.ofList (intText i.toInt))) = .ok (.int i) := by
  have read : readInt64 (intText i.toInt) = .ok i := readInt64_int64Text i
  have visible : Visible (intText i.toInt) := by
    rw [← int64Text, int64Text_eq]
    exact visible_plainLiteral _ _ _
  rw [toInt, intOfText, String.toList_ofList, trim_of_visible visible, read]

theorem toBool_word (b : Bool) :
    toBool field (.text (Json.bool b).render) = .ok (.bool b) := by
  have word : boolOfText? (Json.bool b).render = some b := by
    cases b <;> decide +kernel
  rw [toBool, word]

theorem toBytes_base64Text (b : List UInt8) :
    toBytes field (.text (String.ofList (base64Text b))) = .ok (.bytes b) := by
  have read : bytesOfText? (base64Text b) = some b := bytesOfText?_eq_some_iff.mpr (Or.inl rfl)
  rw [toBytes, String.toList_ofList, trim_of_visible (visible_base64Text b), read]

theorem toDate_text (d : Date) : toDate field (.text (String.ofList d.text)) = .ok (.date d) := by
  rw [toDate, String.toList_ofList, trim_of_visible d.visible_text, d.read?_text]

theorem toDateTime_text (dt : DateTime) :
    toDateTime field (.text (String.ofList dt.text)) = .ok (.dateTime dt) := by
  rw [toDateTime, String.toList_ofList, trim_of_visible dt.visible_text, dt.read?_text]

theorem toTimestamp_text {ts : Timestamp}
    (usual : 0 ≤ ts.utc.date.year ∧ ts.utc.date.year ≤ 9999) :
    toTimestamp field (.text (String.ofList ts.text)) = .ok (.timestamp ts) := by
  rw [toTimestamp, String.toList_ofList, trim_of_visible ts.visible_text, ts.read?_text usual]

theorem toUuid_text (u : Uuid) : toUuid field (.text (String.ofList u.text)) = .ok (.uuid u) := by
  rw [toUuid, String.toList_ofList, trim_of_visible u.visible_text, u.read?_text]

end Coercion

open SqlValue Coercion

variable {field : String}

theorem keyName_int (i : Int64) : keyName (.int i) = String.ofList (intText i.toInt) := by
  have named : keyName (.int i) = (Json.number (Json.Number.ofInt i.toInt)).render := rfl
  rw [named, Json.render, Json.text, Json.Number.text_ofInt]

theorem coerce_keyName {type : LogicalType} {key : SqlValue} (named : type.isName = true)
    (typed : key.HasType type) (present : key ≠ .null) :
    coerce field type (.text (keyName key)) = .ok key := by
  cases type with
  | bool =>
      cases key with
      | bool b => exact toBool_word field b
      | null => exact absurd rfl present
      | _ => exact False.elim typed
  | int =>
      cases key with
      | int i =>
          rw [keyName_int]
          exact toInt_intText field i
      | null => exact absurd rfl present
      | _ => exact False.elim typed
  | numericString =>
      cases key with
      | text s => exact toNumericString_numeral field typed
      | null => exact absurd rfl present
      | _ => exact False.elim typed
  | string =>
      cases key with
      | text s => rfl
      | null => exact absurd rfl present
      | _ => exact False.elim typed
  | _ => cases named

theorem nodup_keyNames {type : LogicalType} {entries : List (SqlValue × SqlValue)}
    (named : type.isName = true) (typed : ∀ entry ∈ entries, entry.1.HasType type)
    (present : .null ∉ entries.map (·.1)) (distinct : (entries.map (·.1)).Nodup) :
    ((entries.map fun entry => (keyName entry.1, entry.2.toJson)).map (·.1)).Nodup := by
  have recovered : ∀ key ∈ entries.map (·.1), coerce "" type (.text (keyName key)) = .ok key := by
    intro key member
    obtain ⟨entry, listed, rfl⟩ := List.mem_map.mp member
    exact coerce_keyName named (typed entry listed) fun isNull => present (isNull ▸ member)
  have injective : ∀ key ∈ entries.map (·.1), ∀ other ∈ entries.map (·.1),
      keyName key = keyName other → key = other := by
    intro key member other otherMember same
    have first := recovered key member
    rw [same, recovered other otherMember] at first
    cases first
    rfl
  have names := distinct.map_on injective
  rw [List.map_map] at names ⊢
  exact names

theorem toJson_map {type : LogicalType} {entries : List (SqlValue × SqlValue)}
    (named : type.isName = true) (typed : ∀ entry ∈ entries, entry.1.HasType type)
    (present : .null ∉ entries.map (·.1)) (distinct : (entries.map (·.1)).Nodup) :
    (SqlValue.map entries).toJson =
      .object (entries.map fun entry => (keyName entry.1, entry.2.toJson)) := by
  have names := nodup_keyNames named typed present distinct
  rw [toJson, entriesToJson_eq_map, Json.collect_of_nodup names]

theorem coerce_array_ofJson_iff {element : LogicalType} {found : List Json}
    {items : List SqlValue} :
    coerce field (.array element) (ofJson (.array found)) = .ok (.array items) ↔
      List.Forall₂ (fun j item => coerce field element (ofJson j) = .ok item) found items := by
  rw [ofJson, itemsOfJson_eq_map]
  constructor
  · intro coerced
    cases coerced_of_eq_ok coerced with
    | scalar flat => cases flat
    | items each => exact List.forall₂_map_left_iff.mp each
  · intro taken
    rw [coerce, Except.bind_eq_ok_iff]
    exact ⟨items, Except.mapM_eq_ok_iff.mpr (List.forall₂_map_left_iff.mpr taken), rfl⟩

/-- A map is recovered entry by entry, each from the name and the value of a member. -/
theorem coerce_map_ofJson_iff {key value : LogicalType} {members : Json.Members}
    {entries : List (SqlValue × SqlValue)} :
    coerce field (.map key value) (ofJson (.object members)) = .ok (.map entries) ↔
      List.Forall₂ (fun member entry => coerce field key (.text member.1) = .ok entry.1 ∧
        coerce field value (ofJson member.2) = .ok entry.2) members entries := by
  rw [ofJson]
  constructor
  · intro coerced
    cases coerced_of_eq_ok coerced with
    | scalar flat => cases flat
    | members each => exact each
  · intro taken
    have pairs := taken.imp fun member entry step => Except.pair_eq_ok_iff.mpr step
    rw [coerce, Except.bind_eq_ok_iff]
    exact ⟨entries, Except.mapM_eq_ok_iff.mpr pairs, rfl⟩

theorem coerce_map_ofJson_number {key value : LogicalType} {w : SqlValue} (n : Json.Number) :
    coerce field (.map key value) (ofJson (.number n)) ≠ .ok w := by
  intro coerced
  rw [ofJson] at coerced
  split at coerced
  · cases coerced
  · cases coerced

/-- A value of a portable type is recovered from its JSON form. -/
theorem coerce_ofJson_toJson {type : LogicalType} {w : SqlValue}
    (portable : type.isPortable = true) (typed : w.HasType type) (recoverable : w.Recoverable) :
    coerce field type (ofJson w.toJson) = .ok w := by
  induction type generalizing w with
  | bool =>
      cases w with
      | null => rfl
      | bool b => rfl
      | _ => exact False.elim typed
  | int =>
      cases w with
      | null => rfl
      | int i =>
          rw [toJson, ofJson, Json.Number.int64?_ofInt]
          rfl
      | _ => exact False.elim typed
  | numericString =>
      cases w with
      | null => rfl
      | text s => exact toNumericString_numeral field typed
      | _ => exact False.elim typed
  | string =>
      cases w with
      | null => rfl
      | text s => rfl
      | _ => exact False.elim typed
  | bytes =>
      cases w with
      | null => rfl
      | bytes b => exact toBytes_base64Text field b
      | _ => exact False.elim typed
  | date =>
      cases w with
      | null => rfl
      | date d => exact toDate_text field d
      | _ => exact False.elim typed
  | dateTime =>
      cases w with
      | null => rfl
      | dateTime dt => exact toDateTime_text field dt
      | _ => exact False.elim typed
  | timestamp =>
      cases w with
      | null => rfl
      | timestamp ts => exact toTimestamp_text field recoverable
      | _ => exact False.elim typed
  | uuid =>
      cases w with
      | null => rfl
      | uuid u => exact toUuid_text field u
      | _ => exact False.elim typed
  | unsupported =>
      cases w with
      | null => rfl
      | _ => exact False.elim typed
  | float => cases portable
  | json => cases portable
  | array element ih =>
      cases w with
      | null => rfl
      | array items =>
          rw [Recoverable, itemsRecoverable_iff] at recoverable
          rw [toJson, itemsToJson_eq_map, coerce_array_ofJson_iff, List.forall₂_map_left_iff,
            List.forall₂_same]
          exact fun item member => ih portable (typed item member) (recoverable item member)
      | _ => exact False.elim typed
  | map key value _ ih =>
      cases w with
      | null => rfl
      | map entries =>
          rw [Recoverable, entriesRecoverable_iff] at recoverable
          obtain ⟨distinct, present, values⟩ := recoverable
          rw [LogicalType.isPortable, Bool.and_eq_true] at portable
          have keysTyped : ∀ entry ∈ entries, entry.1.HasType key :=
            fun entry member => (typed entry member).1
          rw [toJson_map portable.1 keysTyped present distinct, coerce_map_ofJson_iff,
            List.forall₂_map_left_iff, List.forall₂_same]
          intro entry member
          have keyPresent : entry.1 ≠ .null := fun isNull =>
            present (isNull ▸ List.mem_map_of_mem member)
          constructor
          · exact coerce_keyName portable.1 (keysTyped entry member) keyPresent
          · exact ih portable.2 (typed entry member).2 (values entry member)
      | _ => exact False.elim typed

/-- Only a value whose JSON form has no marked object is recovered from what its text is read as. -/
theorem unmarked_of_coerce_eq_ok {type : LogicalType} {w : SqlValue} {read : Json}
    (portable : type.isPortable = true) (typed : w.HasType type) (recoverable : w.Recoverable)
    (reading : w.toJson.toDraft.document? = some read)
    (coerced : coerce field type (ofJson read) = .ok w) : w.toJson.Unmarked := by
  induction type generalizing w read with
  | float => cases portable
  | json => cases portable
  | array element ih =>
      cases w with
      | null => exact True.intro
      | array items =>
          rw [Recoverable, itemsRecoverable_iff] at recoverable
          rw [toJson, itemsToJson_eq_map] at reading ⊢
          obtain ⟨found, rfl, itemsRead⟩ := Json.document?_array reading
          rw [Json.Unmarked, Json.itemsUnmarked_iff]
          intro j member
          obtain ⟨item, listed, rfl⟩ := List.mem_map.mp member
          obtain ⟨result, itemRead, itemCoerced⟩ := exists_of_mem_both
            (List.forall₂_map_left_iff.mp itemsRead) (coerce_array_ofJson_iff.mp coerced) listed
          exact ih portable (typed item listed) (recoverable item listed) itemRead itemCoerced
      | _ => exact False.elim typed
  | map key value _ ih =>
      cases w with
      | null => exact True.intro
      | map entries =>
          rw [Recoverable, entriesRecoverable_iff] at recoverable
          obtain ⟨distinct, present, values⟩ := recoverable
          rw [LogicalType.isPortable, Bool.and_eq_true] at portable
          have keysTyped : ∀ entry ∈ entries, entry.1.HasType key :=
            fun entry member => (typed entry member).1
          have names := nodup_keyNames portable.1 keysTyped present distinct
          rw [toJson_map portable.1 keysTyped present distinct] at reading ⊢
          rcases Json.document?_object names reading with
            ⟨n, rfl⟩ | ⟨first, found, rfl, _, membersRead⟩
          · exact absurd coerced (coerce_map_ofJson_number n)
          · refine ⟨first, Json.membersUnmarked_iff.mpr ?_⟩
            intro member listed
            obtain ⟨entry, entryListed, rfl⟩ := List.mem_map.mp listed
            obtain ⟨result, memberRead, valueCoerced⟩ := exists_of_mem_both
              (List.forall₂_map_left_iff.mp membersRead) (coerce_map_ofJson_iff.mp coerced)
              entryListed
            exact ih portable.2 (typed entry entryListed).2 (values entry entryListed)
              memberRead.2 valueCoerced.2
      | _ => exact False.elim typed
  | _ => cases w <;> first | exact True.intro | exact False.elim typed

/-- The JSON form of a value of a portable type repeats no name in an object. -/
theorem wellFormed_toJson {type : LogicalType} {w : SqlValue} (portable : type.isPortable = true)
    (typed : w.HasType type) : w.toJson.WellFormed := by
  induction type generalizing w with
  | float => cases portable
  | json => cases portable
  | array element ih =>
      cases w with
      | null => exact True.intro
      | array items =>
          rw [toJson, Json.WellFormed, itemsToJson_eq_map, Json.itemsWellFormed_iff]
          intro item member
          obtain ⟨value, listed, rfl⟩ := List.mem_map.mp member
          exact ih portable (typed value listed)
      | _ => exact False.elim typed
  | map key value _ ih =>
      cases w with
      | null => exact True.intro
      | map entries =>
          rw [LogicalType.isPortable, Bool.and_eq_true] at portable
          rw [toJson, entriesToJson_eq_map]
          refine Json.wellFormed_collect fun member found => ?_
          obtain ⟨entry, listed, rfl⟩ := List.mem_map.mp found
          exact ih portable.2 (typed entry listed).2
      | _ => exact False.elim typed
  | _ => cases w <;> first | exact True.intro | exact False.elim typed

end RowConduit
