import FlutterZero.Lib.Json.RoundTrip
import FlutterZero.Lib.Machine

/-! # The cache of Dart callbacks

`DartCallbackCache` (`callback_cache.cc`): a handle stands for a top-level or
static Dart function, given by its name, its class and its library.  The handle
is the sum of the three hashes, the cache maps it back to the function, and the
cache survives a restart through a JSON file.

* `getCallbackHandle`, `getCallbackInformation` — the two directions;
* `saveCacheToDisk`, `loadCacheFromDisk` — the file;
* `Cache.Mirrors` — what the file holds is what the cache holds, which carries
  every result here over a restart;
* `identifies_iff` — handles find their callbacks again exactly when no two
  requested callbacks have hashes of the same sum.

`std::hash` and the JSON library are parameters.
-/

namespace FlutterZero.Ui

open Lib

/-- The bytes of a `std::string`. -/
abbrev StdString := List UInt8

/-- The C string that `c_str` points to ends at the first NUL. -/
def cStr (text : StdString) : StdString := text.takeWhile (· ≠ 0)

def ascii (characters : List Char) : StdString := characters.map fun c => UInt8.ofNat c.toNat

structure DartCallbackRepresentation where
  name : StdString
  className : StdString
  libraryPath : StdString
deriving DecidableEq, Repr

def DartCallbackRepresentation.NulFree (cb : DartCallbackRepresentation) : Prop :=
  0 ∉ cb.name ∧ 0 ∉ cb.className ∧ 0 ∉ cb.libraryPath

instance (cb : DartCallbackRepresentation) : Decidable cb.NulFree := inferInstanceAs (Decidable (_ ∧ _))

/-! ## The JSON library -/

/-- A value of a JSON document; `other` is null, a Boolean or a number that is not an `int64_t`. -/
inductive JsonValue where
  | other
  | int64 (value : Int64)
  | string (value : StdString)
  | array (elements : List JsonValue)
  | object (members : List (StdString × JsonValue))

/-- The text `Writer` puts into its buffer, and `Document::Parse`. -/
structure JsonLibrary where
  write : JsonValue → StdString
  parse : StdString → Option JsonValue

namespace JsonValue

def getObj : JsonValue → Option (List (StdString × JsonValue))
  | object members => some members
  | _ => none

def getInt64 : JsonValue → Option Int64
  | int64 value => some value
  | _ => none

def getString : JsonValue → Option StdString
  | string value => some (cStr value)
  | _ => none

end JsonValue

/-! ## The cache -/

def kHandleKey : StdString := ascii ['h', 'a', 'n', 'd', 'l', 'e']
def kRepresentationKey : StdString :=
  ascii ['r', 'e', 'p', 'r', 'e', 's', 'e', 'n', 't', 'a', 't', 'i', 'o', 'n']
def kNameKey : StdString := ascii ['n', 'a', 'm', 'e']
def kClassNameKey : StdString := ascii ['c', 'l', 'a', 's', 's', '_', 'n', 'a', 'm', 'e']
def kLibraryPathKey : StdString := ascii ['l', 'i', 'b', 'r', 'a', 'r', 'y', '_', 'p', 'a', 't', 'h']

abbrev Cache := Std.TreeMap Int64 DartCallbackRepresentation

structure DartCallbackCache where
  cache : Cache
  /-- The file at `cache_path_`. -/
  disk : Option StdString

namespace DartCallbackCache

/-- Before the first request. -/
def init : DartCallbackCache := ⟨∅, none⟩

def entryDocument (entry : Int64 × DartCallbackRepresentation) : JsonValue :=
  .object
    [(kHandleKey, .int64 entry.1),
      (kRepresentationKey, .object
        [(kNameKey, .string (cStr entry.2.name)),
          (kClassNameKey, .string (cStr entry.2.className)),
          (kLibraryPathKey, .string (cStr entry.2.libraryPath))])]

/-- What `SaveCacheToDisk` tells the writer. -/
def document (cache : Cache) : JsonValue := .array (cache.toList.map entryDocument)

def saveCacheToDisk (json : JsonLibrary) (state : DartCallbackCache) : DartCallbackCache :=
  { state with disk := some (cStr (json.write (document state.cache))) }

def callbackHash (hasher : StdString → UInt64) (cb : DartCallbackRepresentation) : Int64 :=
  let hash := (hasher cb.name).toInt64
  let hash := (hash.toUInt64 + hasher cb.className).toInt64
  (hash.toUInt64 + hasher cb.libraryPath).toInt64

def getCallbackHandle (json : JsonLibrary) (hasher : StdString → UInt64) (state : DartCallbackCache)
    (cb : DartCallbackRepresentation) : Int64 × DartCallbackCache :=
  let hash := callbackHash hasher cb
  if state.cache.contains hash then (hash, state)
  else (hash, saveCacheToDisk json { state with cache := state.cache.insert hash cb })

def getCallbackInformation (state : DartCallbackCache) (handle : Int64) : Option DartCallbackRepresentation :=
  state.cache[handle]?

/-- One round of the loop of `LoadCacheFromDisk`; `none` where an accessor of the JSON library
    asserts. -/
def loadEntry (cache : Cache) (entry : JsonValue) : Option Cache := do
  let rootObj ← entry.getObj
  let representation ← (← rootObj.lookup kRepresentationKey).getObj
  let hash ← (← rootObj.lookup kHandleKey).getInt64
  let name ← (← representation.lookup kNameKey).getString
  let className ← (← representation.lookup kClassNameKey).getString
  let libraryPath ← (← representation.lookup kLibraryPathKey).getString
  return cache.insert hash ⟨name, className, libraryPath⟩

def loadCacheFromDisk (json : JsonLibrary) (state : DartCallbackCache) : Option DartCallbackCache :=
  -- a populated cache is not reloaded
  if !state.cache.isEmpty then some state
  else
    match state.disk with
    | none => some state
    | some contents =>
      match json.parse (cStr contents) with
      | some (.array entries) => do
        let cache ← entries.foldlM loadEntry state.cache
        return { state with cache }
      -- could not parse the callback cache
      | _ => some state

inductive Op where
  | getCallbackHandle (cb : DartCallbackRepresentation)
  | restart
deriving DecidableEq

inductive Aborted where
  | aborted
deriving DecidableEq

def step (json : JsonLibrary) (hasher : StdString → UInt64) (state : DartCallbackCache) :
    Op → Except Aborted (Option Int64 × DartCallbackCache)
  | .getCallbackHandle cb =>
    let (handle, state) := getCallbackHandle json hasher state cb
    .ok (some handle, state)
  | .restart =>
    match loadCacheFromDisk json { state with cache := ∅ } with
    | some state => .ok (none, state)
    | none => .error .aborted

/-! ## The file and the cache -/

/-- What `SaveCacheToDisk` writes is read back as it was. -/
structure Faithful (json : JsonLibrary) : Prop where
  no_nul : ∀ value, 0 ∉ json.write value
  parse_write : ∀ cache, json.parse (json.write (document cache)) = some (document cache)

theorem cStr_eq_self {text : StdString} (free : 0 ∉ text) : cStr text = text := by
  rw [cStr, List.takeWhile_eq_self_iff]
  intro byte inside
  simpa using ne_of_mem_of_not_mem inside free

variable {cb : DartCallbackRepresentation}

theorem loadEntry_entryDocument (cache : Cache) (hash : Int64)
    (free : cb.NulFree) : loadEntry cache (entryDocument (hash, cb)) = some (cache.insert hash cb) := by
  have name : cStr (cStr cb.name) = cb.name := by rw [cStr_eq_self free.1, cStr_eq_self free.1]
  have className : cStr (cStr cb.className) = cb.className := by
    rw [cStr_eq_self free.2.1, cStr_eq_self free.2.1]
  have libraryPath : cStr (cStr cb.libraryPath) = cb.libraryPath := by
    rw [cStr_eq_self free.2.2, cStr_eq_self free.2.2]
  have loaded : loadEntry cache (entryDocument (hash, cb)) =
      some (cache.insert hash ⟨cStr (cStr cb.name), cStr (cStr cb.className), cStr (cStr cb.libraryPath)⟩) := rfl
  rw [loaded, name, className, libraryPath]

theorem foldlM_loadEntry (entries : List (Int64 × DartCallbackRepresentation))
    (free : ∀ entry ∈ entries, entry.2.NulFree) (cache : Cache) :
    (entries.map entryDocument).foldlM loadEntry cache = some (cache.insertMany entries) := by
  induction entries generalizing cache with
  | nil => simp
  | cons entry entries ih =>
    rw [List.forall_mem_cons] at free
    rw [List.map_cons, List.foldlM_cons, loadEntry_entryDocument cache entry.1 free.1, Option.bind_eq_bind,
      Option.bind_some, ih free.2, Std.TreeMap.insertMany_cons]

theorem getElem?_insertMany_toList (cache : Cache) (hash : Int64) :
    ((∅ : Cache).insertMany cache.toList)[hash]? = cache[hash]? := by
  cases found : cache[hash]? with
  | some cb =>
    apply Std.TreeMap.getElem?_insertMany_list_of_mem Std.ReflCmp.compare_self
    · exact Std.TreeMap.distinct_keys_toList
    · exact Std.TreeMap.mem_toList_iff_getElem?_eq_some.mpr found
  | none =>
    rw [Std.TreeMap.getElem?_insertMany_list_of_contains_eq_false, Std.TreeMap.getElem?_emptyc]
    rw [Std.TreeMap.map_fst_toList_eq_keys, Std.TreeMap.contains_keys]
    rw [Std.TreeMap.contains_eq_isSome_getElem?, found, Option.isSome_none]

/-- The file holds `cache`, or there is none while `cache` is empty. -/
def Mirrors (json : JsonLibrary) (disk : Option StdString) (cache : Cache) : Prop :=
  match disk with
  | none => ∀ hash : Int64, cache[hash]? = none
  | some contents => ∃ saved : Cache, contents = json.write (document saved) ∧
      ∀ hash : Int64, saved[hash]? = cache[hash]?

theorem Mirrors.congr {json : JsonLibrary} {disk : Option StdString} {cache cache' : Cache}
    (mirrors : Mirrors json disk cache) (same : ∀ hash : Int64, cache'[hash]? = cache[hash]?) :
    Mirrors json disk cache' := by
  cases disk with
  | none => exact fun hash => (same hash).trans (mirrors hash)
  | some contents =>
    obtain ⟨saved, written, held⟩ := mirrors
    exact ⟨saved, written, fun hash => (held hash).trans (same hash).symm⟩

variable {state : DartCallbackCache}

theorem loadCacheFromDisk_spec {json : JsonLibrary} (faithful : Faithful json)
    (mirrors : Mirrors json state.disk state.cache)
    (free : ∀ (hash : Int64) cb, state.cache[hash]? = some cb → cb.NulFree) :
    ∃ cache : Cache, loadCacheFromDisk json { state with cache := ∅ } = some { state with cache } ∧
      ∀ hash : Int64, cache[hash]? = state.cache[hash]? := by
  obtain ⟨cache, disk⟩ := state
  cases disk with
  | none => exact ⟨∅, rfl, fun hash => (mirrors hash).symm⟩
  | some contents =>
    obtain ⟨saved, rfl, same⟩ := mirrors
    refine ⟨(∅ : Cache).insertMany saved.toList, ?_, fun hash => ?_⟩
    · have free' : ∀ entry ∈ saved.toList, entry.2.NulFree := by
        rintro ⟨hash, cb⟩ inside
        exact free hash cb ((same hash).symm.trans (Std.TreeMap.mem_toList_iff_getElem?_eq_some.mp inside))
      have loaded := foldlM_loadEntry saved.toList free' ∅
      rw [loadCacheFromDisk, if_neg (by simp)]
      simp only [cStr_eq_self (faithful.no_nul _), faithful.parse_write]
      rw [document]
      simp only [loaded]
      rfl
    · rw [getElem?_insertMany_toList, same]

/-! ## Requests and restarts -/

def Op.request : Op → Option DartCallbackRepresentation
  | getCallbackHandle cb => some cb
  | restart => none

def requests (ops : List Op) : List DartCallbackRepresentation := ops.filterMap Op.request

/-- What holds after the callbacks `requested` were asked for, whatever restarts happened. -/
structure Sound (json : JsonLibrary) (hasher : StdString → UInt64)
    (requested : List DartCallbackRepresentation) (state : DartCallbackCache) : Prop where
  requested_of_found : ∀ (hash : Int64) cb, state.cache[hash]? = some cb →
    cb ∈ requested ∧ callbackHash hasher cb = hash
  found_of_requested : ∀ cb ∈ requested, (state.cache[callbackHash hasher cb]?).isSome = true
  mirrors : Mirrors json state.disk state.cache

variable {json : JsonLibrary} {hasher : StdString → UInt64}

theorem sound_init : Sound json hasher [] init where
  requested_of_found hash cb found := by
    rw [init, Std.TreeMap.getElem?_emptyc] at found
    cases found
  found_of_requested cb inside := absurd inside List.not_mem_nil
  mirrors hash := by rw [init, Std.TreeMap.getElem?_emptyc]

variable {requested : List DartCallbackRepresentation}

theorem Sound.getCallbackHandle (faithful : Faithful json)
    (sound : Sound json hasher requested state) (cb : DartCallbackRepresentation) :
    Sound json hasher (requested ++ [cb]) (getCallbackHandle json hasher state cb).2 := by
  simp only [DartCallbackCache.getCallbackHandle, Std.TreeMap.contains_eq_isSome_getElem?]
  by_cases cached : (state.cache[callbackHash hasher cb]?).isSome = true
  · -- the first registration of a handle stays
    rw [if_pos cached]
    refine ⟨fun hash cb' found => ?_, fun cb' inside => ?_, sound.mirrors⟩
    · obtain ⟨inside, hashed⟩ := sound.requested_of_found hash cb' found
      exact ⟨List.mem_append_left _ inside, hashed⟩
    · rcases List.mem_append.mp inside with inside | new
      · exact sound.found_of_requested cb' inside
      · rw [List.mem_singleton.mp new]
        exact cached
  · rw [if_neg cached]
    refine ⟨fun hash cb' found => ?_, fun cb' inside => ?_, ?_⟩
    · simp only [saveCacheToDisk, Std.TreeMap.getElem?_insert, Std.LawfulEqCmp.compare_eq_iff_eq] at found
      split at found
      · rename_i same
        cases found
        exact ⟨List.mem_append_right _ (List.mem_singleton_self cb), same⟩
      · obtain ⟨inside, hashed⟩ := sound.requested_of_found hash cb' found
        exact ⟨List.mem_append_left _ inside, hashed⟩
    · simp only [saveCacheToDisk, Std.TreeMap.getElem?_insert, Std.LawfulEqCmp.compare_eq_iff_eq]
      split
      · rfl
      · rename_i different
        rcases List.mem_append.mp inside with inside | new
        · exact sound.found_of_requested cb' inside
        · exact absurd (congrArg (callbackHash hasher) (List.mem_singleton.mp new).symm) different
    · exact ⟨_, cStr_eq_self (faithful.no_nul _), fun hash => rfl⟩

def answer (hasher : StdString → UInt64) (op : Op) : Option Int64 := op.request.map (callbackHash hasher)

theorem fst_getCallbackHandle (state : DartCallbackCache) (cb : DartCallbackRepresentation) :
    (DartCallbackCache.getCallbackHandle json hasher state cb).1 = callbackHash hasher cb := by
  simp only [DartCallbackCache.getCallbackHandle]
  split <;> rfl

theorem Sound.step (faithful : Faithful json) (free : ∀ cb ∈ requested, cb.NulFree)
    (sound : Sound json hasher requested state) (op : Op) :
    ∃ state', step json hasher state op = .ok (answer hasher op, state') ∧
      Sound json hasher (requested ++ requests [op]) state' := by
  cases op with
  | getCallbackHandle cb =>
    refine ⟨_, ?_, sound.getCallbackHandle faithful cb⟩
    simp only [DartCallbackCache.step, answer, Op.request, Option.map_some, fst_getCallbackHandle]
  | restart =>
    have free' : ∀ (hash : Int64) cb, state.cache[hash]? = some cb → cb.NulFree :=
      fun hash cb found => free cb (sound.requested_of_found hash cb found).1
    obtain ⟨cache, loaded, same⟩ := loadCacheFromDisk_spec faithful sound.mirrors free'
    refine ⟨{ state with cache }, by simp only [DartCallbackCache.step, loaded]; rfl, ?_⟩
    have restored : requested ++ requests [.restart] = requested := List.append_nil requested
    rw [restored]
    refine ⟨fun hash cb found => ?_, fun cb inside => ?_, ?_⟩
    · exact sound.requested_of_found hash cb ((same hash).symm.trans found)
    · rw [same]
      exact sound.found_of_requested cb inside
    · exact sound.mirrors.congr same

theorem Sound.run (faithful : Faithful json) (ops : List Op) (free : ∀ cb ∈ requested ++ requests ops, cb.NulFree)
    (sound : Sound json hasher requested state) : ∃ state', Lib.run (DartCallbackCache.step json hasher) state ops =
        .ok (ops.map fun op => (op, answer hasher op), state') ∧
      Sound json hasher (requested ++ requests ops) state' := by
  induction ops generalizing requested state with
  | nil => exact ⟨state, rfl, by simpa [requests] using sound⟩
  | cons op ops ih =>
    have split : requested ++ requests (op :: ops) = requested ++ requests [op] ++ requests ops := by
      rw [List.append_assoc, requests, requests, requests, ← List.filterMap_append, List.singleton_append]
    rw [split] at free ⊢
    have free' : ∀ cb ∈ requested, cb.NulFree := fun cb inside => free cb (by simp [inside])
    obtain ⟨middle, stepped, sound⟩ := sound.step faithful free' op
    obtain ⟨state', ran, sound⟩ := ih free sound
    exact ⟨state', by simp only [Lib.run, stepped, ran, List.map_cons], sound⟩

/-- Every handle that was returned finds its callback again, at every later moment. -/
def Identifies (json : JsonLibrary) (hasher : StdString → UInt64) (ops : List Op) : Prop :=
  ∀ done, done <+: ops → ∃ log state, Lib.run (step json hasher) init done = .ok (log, state) ∧
    ∀ cb handle, (.getCallbackHandle cb, some handle) ∈ log → getCallbackInformation state handle = some cb

variable {ops : List Op}

theorem mem_requests : cb ∈ requests ops ↔ .getCallbackHandle cb ∈ ops := by
  rw [requests, List.mem_filterMap]
  refine ⟨?_, fun inside => ⟨_, inside, rfl⟩⟩
  rintro ⟨op, inside, asked⟩
  cases op with
  | getCallbackHandle cb' =>
    cases asked
    exact inside
  | restart => cases asked

theorem callbackHash_eq_iff {cb' : DartCallbackRepresentation} : callbackHash hasher cb = callbackHash hasher cb' ↔
      hasher cb.name + hasher cb.className + hasher cb.libraryPath =
        hasher cb'.name + hasher cb'.className + hasher cb'.libraryPath := by
  simp only [callbackHash, UInt64.toUInt64_toInt64]
  exact ⟨fun same => by simpa using congrArg Int64.toUInt64 same, fun same => congrArg UInt64.toInt64 same⟩

/-- No two different callbacks that were asked for have hashes of the same sum. -/
def DistinctSums (hasher : StdString → UInt64) (ops : List Op) : Prop :=
  ∀ cb ∈ requests ops, ∀ cb' ∈ requests ops,
    hasher cb.name + hasher cb.className + hasher cb.libraryPath =
      hasher cb'.name + hasher cb'.className + hasher cb'.libraryPath → cb = cb'

instance (hasher : StdString → UInt64) (ops : List Op) : Decidable (DistinctSums hasher ops) :=
  inferInstanceAs (Decidable (∀ _ ∈ _, ∀ _ ∈ _, _ → _))

theorem distinctSums_of_identifies (faithful : Faithful json)
    (free : ∀ cb ∈ requests ops, cb.NulFree) : Identifies json hasher ops → DistinctSums hasher ops := by
  intro identifies cb asked cb' asked' same
  -- after the whole run the one handle would have to find both
  obtain ⟨state, ran, -⟩ := (sound_init : Sound json hasher [] init).run faithful ops (by simpa using free)
  obtain ⟨log, state', ran', found⟩ := identifies ops List.prefix_rfl
  rw [ran, Except.ok.injEq, Prod.mk.injEq] at ran'
  obtain ⟨rfl, rfl⟩ := ran'
  have information : ∀ asked ∈ requests ops,
      getCallbackInformation state (callbackHash hasher asked) = some asked := fun asked inside =>
    found asked _ (List.mem_map.mpr ⟨_, mem_requests.mp inside, rfl⟩)
  have first := information cb asked
  rw [callbackHash_eq_iff.mpr same, information cb' asked'] at first
  exact (Option.some.inj first).symm

theorem identifies_of_distinctSums (faithful : Faithful json)
    (free : ∀ cb ∈ requests ops, cb.NulFree) : DistinctSums hasher ops → Identifies json hasher ops := by
  intro distinct done before
  have subset : ∀ cb ∈ requests done, cb ∈ requests ops :=
    fun cb asked => mem_requests.mpr (before.subset (mem_requests.mp asked))
  obtain ⟨state, ran, sound⟩ :=
    (sound_init : Sound json hasher [] init).run faithful done fun cb asked =>
      free cb (subset cb (by simpa using asked))
  refine ⟨_, state, ran, fun cb handle logged => ?_⟩
  obtain ⟨op, inside, entry⟩ := List.mem_map.mp logged
  cases entry
  have asked := mem_requests.mpr inside
  -- whoever is registered under the handle has hashes of the same sum
  obtain ⟨registered, found⟩ := Option.isSome_iff_exists.mp (sound.found_of_requested cb asked)
  obtain ⟨asked', hashed⟩ := sound.requested_of_found _ registered found
  have same := distinct registered (subset registered asked') cb (subset cb asked) (callbackHash_eq_iff.mp hashed)
  rw [getCallbackInformation, found, same]

theorem not_identifies_of_perm (faithful : Faithful json)
    (free : ∀ cb ∈ requests ops, cb.NulFree) {cb' : DartCallbackRepresentation} (asked : cb ∈ requests ops)
    (asked' : cb' ∈ requests ops) (different : cb ≠ cb')
    (rearranged : [cb.name, cb.className, cb.libraryPath].Perm [cb'.name, cb'.className, cb'.libraryPath]) :
    ¬ Identifies json hasher ops := by
  intro identifies
  have sum : (([cb.name, cb.className, cb.libraryPath].map hasher).sum : UInt64) =
      ([cb'.name, cb'.className, cb'.libraryPath].map hasher).sum := (rearranged.map hasher).sum_eq
  apply different
  apply distinctSums_of_identifies faithful free identifies cb asked cb' asked'
  simpa [add_assoc] using sum

/-! ## A JSON library and a hash -/

def toUnits (text : StdString) : Utf16 := text.map UInt8.toUInt16

def ofUnits (text : Utf16) : StdString := text.map UInt16.toUInt8

theorem ofUnits_toUnits (text : StdString) : ofUnits (toUnits text) = text := by
  rw [ofUnits, toUnits, List.map_map]
  exact List.map_id'' (fun byte => UInt8.toUInt8_toUInt16 byte) text

mutual

def toJson : JsonValue → Json Unit
  | .other => .null
  | .int64 value => .int value
  | .string value => .string (toUnits value)
  | .array elements => .list (toJsonElements elements)
  | .object members => .object (toJsonMembers members)

def toJsonElements : List JsonValue → List (Json Unit)
  | [] => []
  | element :: elements => toJson element :: toJsonElements elements

def toJsonMembers : List (StdString × JsonValue) → List (Utf16 × Json Unit)
  | [] => []
  | (key, value) :: members => (toUnits key, toJson value) :: toJsonMembers members

end

mutual

def ofJson : Json Unit → JsonValue
  | .null => .other
  | .bool _ => .other
  | .double _ => .other
  | .int value => .int64 value
  | .string value => .string (ofUnits value)
  | .list elements => .array (ofJsonElements elements)
  | .object members => .object (ofJsonMembers members)

def ofJsonElements : List (Json Unit) → List JsonValue
  | [] => []
  | element :: elements => ofJson element :: ofJsonElements elements

def ofJsonMembers : List (Utf16 × Json Unit) → List (StdString × JsonValue)
  | [] => []
  | (key, value) :: members => (ofUnits key, ofJson value) :: ofJsonMembers members

end

mutual

theorem ofJson_toJson : ∀ value : JsonValue, ofJson (toJson value) = value
  | .other => rfl
  | .int64 _ => rfl
  | .string value => by rw [toJson, ofJson, ofUnits_toUnits]
  | .array elements => by rw [toJson, ofJson, ofJsonElements_toJsonElements]
  | .object members => by rw [toJson, ofJson, ofJsonMembers_toJsonMembers]

theorem ofJsonElements_toJsonElements : ∀ elements, ofJsonElements (toJsonElements elements) = elements
  | [] => rfl
  | element :: elements => by
    rw [toJsonElements, ofJsonElements, ofJson_toJson, ofJsonElements_toJsonElements]

theorem ofJsonMembers_toJsonMembers : ∀ members, ofJsonMembers (toJsonMembers members) = members
  | [] => rfl
  | (key, value) :: members => by
    rw [toJsonMembers, ofJsonMembers, ofUnits_toUnits, ofJson_toJson, ofJsonMembers_toJsonMembers]

end

/-- No floating-point number is written here. -/
def noDoubles : DoubleFormat Unit where
  toLiteral _ := none
  parse _ := ()
  isDouble_of_toLiteral := by simp
  parse_of_toLiteral := by simp

def utf8Json : JsonLibrary where
  write value := encodeUtf8 (((toJson value).encode noDoubles).getD [])
  parse text := do
    let text ← decodeUtf8 text
    return ofJson (← Json.decode noDoubles text)

theorem allElements_document {p : Json Unit → Bool} (entries : List (Int64 × DartCallbackRepresentation))
    (each : ∀ entry, (toJson (entryDocument entry)).all p = true) :
    Json.allElements p (toJsonElements (entries.map entryDocument)) = true := by
  induction entries with
  | nil => rfl
  | cons entry entries ih => rw [List.map_cons, toJsonElements, Json.allElements, each, ih, Bool.and_self]

theorem faithful_utf8Json : Faithful utf8Json where
  no_nul value nul := by
    cases encoded : (toJson value).encode noDoubles with
    | none => simp [utf8Json, encoded, encodeUtf8, toCodePoints] at nul
    | some text =>
      have printable := printable_encode noDoubles encoded
      simp only [utf8Json, encoded, Option.getD_some] at nul
      have visible := printable.visible _ (mem_of_mem_encodeUtf8 printable.paired (by decide) nul)
      revert visible
      decide
  parse_write cache := by
    have finite : (toJson (document cache)).all (Json.isFinite noDoubles) = true := by
      rw [document, toJson, Json.all, allElements_document]
      · rfl
      · exact fun entry => rfl
    have distinct : (toJson (document cache)).all Json.hasDistinctKeys = true := by
      rw [document, toJson, Json.all, allElements_document]
      · rfl
      · exact fun entry => rfl
    obtain ⟨text, encoded⟩ := exists_encode_of_isFinite noDoubles finite
    have printable := printable_encode noDoubles encoded
    have unmarked : text.head? ≠ some 0xFEFF := by
      rw [document, toJson, Json.encode] at encoded
      obtain ⟨elements, -, written⟩ := Option.bind_eq_some_iff.mp encoded
      cases written
      simp
    have written : utf8Json.write (document cache) = encodeUtf8 text := by
      simp only [utf8Json, encoded, Option.getD_some]
    rw [written]
    simp only [utf8Json, decodeUtf8_encodeUtf8 printable.paired unmarked, decode_encode noDoubles encoded distinct,
      Option.bind_eq_bind, Option.bind_some, ofJson_toJson]
    rfl

def fnv1a (text : StdString) : UInt64 :=
  text.foldl (fun hash byte => (hash ^^^ byte.toUInt64) * 1099511628211) 14695981039346656037

/-! ## Identification -/

/-- Handles find their callbacks again exactly when the hashes of different callbacks have different
    sums. -/
theorem identifies_iff (faithful : Faithful json) {ops : List Op} (free : ∀ cb ∈ requests ops, cb.NulFree) :
    Identifies json hasher ops ↔ DistinctSums hasher ops :=
  ⟨distinctSums_of_identifies faithful free, identifies_of_distinctSums faithful free⟩

/-- `Worker.start`, asked for before and after a restart, and the top-level function `start`. -/
def workerOps : List Op :=
  let worker : StdString := ascii ['W', 'o', 'r', 'k', 'e', 'r']
  let start : StdString := ascii ['s', 't', 'a', 'r', 't']
  let library : StdString := ascii ['m', 'a', 'i', 'n']
  [.getCallbackHandle ⟨start, worker, library⟩, .restart, .getCallbackHandle ⟨start, [], library⟩, .restart,
    .getCallbackHandle ⟨start, worker, library⟩]

theorem identifies_workerOps : Identifies utf8Json fnv1a workerOps :=
  (identifies_iff faithful_utf8Json (by decide)).mpr (by decide)

def strings (ops : List Op) : List StdString :=
  (requests ops).flatMap fun cb => [cb.name, cb.className, cb.libraryPath]

/-- The static method `b` of the class `a` and the static method `a` of the class `b`. -/
def swappedOps : List Op :=
  let a : StdString := ascii ['a']
  let b : StdString := ascii ['b']
  let library : StdString := ascii ['m', 'a', 'i', 'n']
  [.getCallbackHandle ⟨b, a, library⟩, .getCallbackHandle ⟨a, b, library⟩]

/-- Two static methods share a handle although all their strings have different hashes. -/
theorem not_identifies_swappedOps :
    ¬ ∀ (json : JsonLibrary) (hasher : StdString → UInt64) (ops : List Op), Faithful json →
      (∀ text ∈ strings ops, ∀ text' ∈ strings ops, hasher text = hasher text' → text = text') →
      (∀ cb ∈ requests ops, cb.NulFree) → Identifies json hasher ops := by
  intro always
  have identifies := always utf8Json fnv1a swappedOps faithful_utf8Json (by decide) (by decide)
  exact absurd identifies (not_identifies_of_perm faithful_utf8Json (by decide)
    (List.mem_cons_self) (List.mem_cons_of_mem _ List.mem_cons_self) (by decide) (by decide))

end DartCallbackCache

end FlutterZero.Ui
