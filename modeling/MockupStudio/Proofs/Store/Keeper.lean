/-
A service that keeps documents, and what calls through it do.

* `Keeper`: a service with a clock of its own; `Keeper.reply`: what it answers to a
  request, which it reads from and writes as JSON texts;
* `Keeper.route_item`: an accepted id comes out of the address that it is put into;
* `Call.requests`: what is sent for a call;
* `Keeper.ask_done`, `Keeper.ask_missing`: one request;
* `Keeper.answer_eq`: a call through the service is the call on its shelf, at the
  time that the clock of the service shows, and sends these requests.
-/
import MockupStudio.Proofs.Document.Encoding
import MockupStudio.Proofs.Store.Dates
import MockupStudio.Proofs.Store.Places

namespace MockupStudio

/-- A service that keeps documents. -/
structure Keeper where
  /-- The address under which the service is found. -/
  base : Address
  /-- What its clock shows when a request comes in, by the number of requests before. -/
  clock : Nat → Timestamp
  /-- The order in which it lists what it keeps. -/
  arrange : Nat → List Summary → List Summary
  arrange_perm : ∀ n summaries, (arrange n summaries).Perm summaries

namespace Keeper

/-- What a service holds: its documents, and the requests that have come in. -/
structure Holding where
  shelf : Shelf := []
  received : List Request := []

/-! ### The service -/

/-- What a request is about. -/
inductive Route where
  | collection
  | item (id : String)
  deriving Repr, DecidableEq

/-- What an address leads to, below the address of all documents. -/
def route? (collection target : Address) : Option Route :=
  if target.scheme = collection.scheme ∧ target.authority = collection.authority
      ∧ target.segments.dropLast = collection.segments.dropLast then
    match target.segments.getLast? with
    | some "" => some .collection
    | some segment => (Percent.decode? segment.toList).map fun id => .item (String.ofList id)
    | none => none
  else none

/-- Goes on with the document of an id, if there is one. -/
def withDocument (id : String) (shelf : Shelf) (work : Document → Reply × Shelf) :
    Reply × Shelf :=
  match Bindings.get? id shelf with
  | some d => work d
  | none => (.answered 404 "", shelf)

/-- Goes on with what a request carries, if it can be read. -/
def withBody (read : Wire → Option α) (request : Request) (shelf : Shelf)
    (work : α → Reply × Shelf) : Reply × Shelf :=
  match request.body.bind fun data => Wire.readJson? read data.compact with
  | some a => work a
  | none => (.answered 422 "", shelf)

/-- A listing of all documents. -/
def listing (keeper : Keeper) (n : Nat) (shelf : Shelf) : String :=
  (Json.array ((keeper.arrange n (shelf.map fun (_, d) => d.summary)).map
    Summary.toJson)).compact

/-- What the service does with a request about a document. -/
def replyItem (keeper : Keeper) (n : Nat) (shelf : Shelf) (id : String) (request : Request) :
    Reply × Shelf :=
  match request.method with
  | .get => withDocument id shelf fun d => (.answered 200 d.toJson.compact, shelf)
  | .put => withBody SaveRequest.ofWire? request shelf fun r =>
      (.answered 204 "", Bindings.insert id ⟨id, r.name, keeper.clock n, r.sources⟩ shelf)
  | .patch => withBody FieldUpdate.ofWire? request shelf fun u =>
      withDocument id shelf fun d =>
        (.answered 204 "", Bindings.insert id (d.updateField (keeper.clock n) u.field u.text) shelf)
  | .delete => withDocument id shelf fun _ => (.answered 204 "", Bindings.erase id shelf)

/-- What the service does with a request. -/
def reply (keeper : Keeper) (n : Nat) (shelf : Shelf) (request : Request) : Reply × Shelf :=
  match route? (Service.collectionOf keeper.base) request.address with
  | some .collection =>
    if request.method = .get then (.answered 200 (keeper.listing n shelf), shelf)
    else (.answered 405 "", shelf)
  | some (.item id) => keeper.replyItem n shelf id request
  | none => (.answered 404 "", shelf)

/-- The service as it is found over the network: every request is answered. -/
def service (keeper : Keeper) : Service Holding where
  base := keeper.base
  send request := fun holding =>
    let (reply, shelf) := keeper.reply holding.received.length holding.shelf request
    (reply, ⟨shelf, holding.received ++ [request]⟩)

end Keeper

/-! ### Addresses -/

lemma Id.bytes_of_allows {c : Char} (h : Id.allows c) :
    c ≠ '%' ∧ c.toString.toUTF8.toList = String.utf8EncodeChar c :=
  Id.of_allows (fun c => c ≠ '%' ∧ c.toString.toUTF8.toList = String.utf8EncodeChar c)
    (by decide +kernel) h

lemma Percent.decodeBytes_of_allows {cs : List Char} (h : ∀ c ∈ cs, Id.allows c) :
    decodeBytes cs = cs.flatMap String.utf8EncodeChar := by
  induction cs with
  | nil => rfl
  | cons c cs ih =>
    rw [List.forall_mem_cons] at h
    obtain ⟨hpercent, hbytes⟩ := Id.bytes_of_allows h.1
    rw [decodeBytes, hbytes, ih h.2, List.flatMap_cons]
    rintro a b rest hc -
    exact hpercent hc

/-- An id has no percent signs that would stand for anything else. -/
lemma Percent.decode_id {id : String} (h : Id.isValid id) :
    decode? id.toList = some id.toList := by
  have hall := (Id.isValid_iff.mp h).2.2
  have hbytes : (⟨(id.toList.flatMap String.utf8EncodeChar).toArray⟩ : ByteArray)
      = id.toList.utf8Encode := by
    apply ByteArray.ext
    rw [← Array.toList_inj, List.utf8Encode, List.toList_data_toByteArray]
  rw [decode?, decodeBytes_of_allows hall, hbytes, String.fromUTF8?,
    dif_pos ByteArray.isValidUTF8_utf8Encode]
  exact congrArg some String.toList_ofList

namespace Keeper

variable {id : String}

lemma route_collection (base : Address) :
    route? (Service.collectionOf base) (Service.collectionOf base) = some .collection := by
  obtain ⟨segments, h⟩ := Address.segments_collectionOf base
  rw [h, route?, if_pos ⟨rfl, rfl, rfl⟩]
  simp

/-- An accepted id comes out of the address that it is put into. -/
lemma route_item (h : Id.isValid id) (keeper : Keeper) :
    route? (Service.collectionOf keeper.base) (keeper.service.item id) = some (.item id) := by
  obtain ⟨segments, hcollection, hitem⟩ := Id.item_eq h keeper.service
  rw [Service.collection] at hcollection
  have hbase : keeper.service.base = keeper.base := rfl
  rw [hbase] at hcollection hitem
  have hlast : (segments ++ [id]).getLast? = some id := List.getLast?_concat
  rw [hcollection, hitem, route?, if_pos (by simp), hlast]
  split
  · next hempty => exact absurd (Option.some.inj hempty) (Id.isValid_iff.mp h).1.1
  · next hsegment =>
    rw [← Option.some.inj hsegment, Percent.decode_id h, Option.map_some, String.ofList_toList]
  · next hnone => cases hnone

end Keeper

/-! ### Requests -/

/-- What is sent for a call, to a service whose documents have these names and sources:
nothing for a text that is no id, and for a rename two requests where there is a
document. -/
def Call.requests {σ : Type} (service : Service σ) (catalogue : Catalogue) : Call → List Request
  | list => [⟨.get, service.collection, none⟩]
  | get id => if Id.isValid id then [⟨.get, service.item id, none⟩] else []
  | save id name sources =>
    if Id.isValid id then [⟨.put, service.item id, some (SaveRequest.toJson ⟨name, sources⟩)⟩]
    else []
  | saveField id field text =>
    if Id.isValid id then [⟨.patch, service.item id, some (FieldUpdate.toJson ⟨field, text⟩)⟩]
    else []
  | remove id => if Id.isValid id then [⟨.delete, service.item id, none⟩] else []
  | rename id name =>
    if Id.isValid id then
      ⟨.get, service.item id, none⟩ :: (catalogue id).toList.map fun entry =>
        ⟨.put, service.item id, some (SaveRequest.toJson ⟨name, entry.2⟩)⟩
    else []

namespace Keeper

/-- What is held after a request. -/
def Holding.after (holding : Holding) (request : Request) (shelf : Shelf) : Holding :=
  ⟨shelf, holding.received ++ [request]⟩

section Requests

variable {keeper : Keeper} {holding : Holding} {shelf after : Shelf} {id name body : String}
  {d : Document} {request : Request} {status : Nat}

/-- A request that the service carries out. -/
lemma ask_done (means : NotFoundMeans) (id : String) (hstatus : 200 ≤ status ∧ status < 300)
    (h : keeper.reply holding.received.length holding.shelf request
      = (.answered status body, after)) :
    keeper.service.ask means id request holding
      = .ok (Service.carried status body) (holding.after request after) := by
  have hsend : keeper.service.send request holding
      = (.answered status body, holding.after request after) := by
    rw [service]
    simp only [h]
    rfl
  have haccept : Service.accept means id request.address (.answered status body)
      = .ok (Service.carried status body) := if_pos hstatus
  rw [Service.ask, hsend]
  simp only [haccept]

/-- A request about a document that there is not. -/
lemma ask_missing (h : keeper.reply holding.received.length holding.shelf request
      = (.answered 404 "", after)) :
    keeper.service.ask .noDocument id request holding
      = .error (.notFound id) (holding.after request after) := by
  have hsend : keeper.service.send request holding
      = (.answered 404 "", holding.after request after) := by
    rw [service]
    simp only [h]
    rfl
  rw [Service.ask, hsend]
  rfl

lemma reply_item (hid : Id.isValid id) (n : Nat) (shelf : Shelf) (method : Method)
    (data : Option Json) : keeper.reply n shelf ⟨method, keeper.service.item id, data⟩
      = keeper.replyItem n shelf id ⟨method, keeper.service.item id, data⟩ := by
  rw [reply, route_item hid]

lemma withDocument_some (h : Bindings.get? id shelf = some d) (work : Document → Reply × Shelf) :
    withDocument id shelf work = work d := by
  rw [withDocument, h]

lemma withDocument_none (h : Bindings.get? id shelf = none) (work : Document → Reply × Shelf) :
    withDocument id shelf work = (.answered 404 "", shelf) := by
  rw [withDocument, h]

/-- A text that is no id is refused before anything is sent. -/
lemma checkId_refused {α : Type} (hid : ¬ Id.isValid id) (next : Unit → Storing Holding α) :
    (checkId id >>= next) holding = .error (.invalidId id) holding := by
  rw [checkId, if_neg hid]
  rfl

lemma checkId_passed {α : Type} (hid : Id.isValid id) (next : Unit → Storing Holding α) :
    (checkId id >>= next) holding = next () holding := by
  rw [checkId, if_pos hid]
  rfl

end Requests

/-! ### Operations -/

section Operations

variable {keeper : Keeper} {holding : Holding} {id name : String} {d : Document}

lemma carried_ok (body : String) : Service.carried 200 body = body := rfl

lemma decode_apply {α : Type} {read : Wire → Option α} {body : String} {a : α}
    (h : Wire.readJson? read body = some a) (holding : Holding) :
    (Service.decode read body : Storing Holding α) holding = .ok a holding := by
  rw [Service.decode, h]
  rfl

lemma get_found (hsound : holding.shelf.Sound) (hd : Bindings.get? id holding.shelf = some d)
    (htime : d.modifiedAt.InRange) : keeper.service.get id holding
      = .ok d (holding.after ⟨.get, keeper.service.item id, none⟩ holding.shelf) := by
  obtain ⟨hid, rfl⟩ := hsound.keyed id d hd
  have hreply : keeper.reply holding.received.length holding.shelf
      ⟨.get, keeper.service.item d.id, none⟩
        = (.answered 200 d.toJson.compact, holding.shelf) := by
    rw [reply_item hid]
    exact withDocument_some hd _
  have hask := ask_done .noDocument d.id (by decide) hreply
  rw [carried_ok] at hask
  have hdecode := decode_apply (Document.readJson_compact htime)
  rw [Service.get, checkId_passed hid, Storing.bind_ok hask, Storing.bind_ok (hdecode _)]
  rfl

lemma get_missing (hid : Id.isValid id) (hd : Bindings.get? id holding.shelf = none) :
    keeper.service.get id holding = .error (.notFound id)
      (holding.after ⟨.get, keeper.service.item id, none⟩ holding.shelf) := by
  have hreply : keeper.reply holding.received.length holding.shelf
      ⟨.get, keeper.service.item id, none⟩ = (.answered 404 "", holding.shelf) := by
    rw [reply_item hid]
    exact withDocument_none hd _
  rw [Service.get, checkId_passed hid, Storing.bind_error (ask_missing hreply)]

lemma save_done (hid : Id.isValid id) (name : String) (sources : Sources) :
    keeper.service.save id name sources holding
      = .ok () (holding.after
        ⟨.put, keeper.service.item id, some (SaveRequest.toJson ⟨name, sources⟩)⟩
        (Bindings.insert id ⟨id, name, keeper.clock holding.received.length, sources⟩
          holding.shelf)) := by
  have hreply : keeper.reply holding.received.length holding.shelf
      ⟨.put, keeper.service.item id, some (SaveRequest.toJson ⟨name, sources⟩)⟩
        = (.answered 204 "", Bindings.insert id
          ⟨id, name, keeper.clock holding.received.length, sources⟩ holding.shelf) := by
    rw [reply_item hid, replyItem]
    simp only [withBody, Option.bind_some, SaveRequest.readJson_compact]
  have hask := ask_done .noService id (by decide) hreply
  rw [Service.save, checkId_passed hid, Storing.bind_ok hask]
  rfl

lemma reply_patch (keeper : Keeper) (hid : Id.isValid id) (n : Nat) (shelf : Shelf)
    (field : Stage) (text : String) : keeper.reply n shelf
      ⟨.patch, keeper.service.item id, some (FieldUpdate.toJson ⟨field, text⟩)⟩
        = withDocument id shelf fun d => (.answered 204 "",
          Bindings.insert id (d.updateField (keeper.clock n) field text) shelf) := by
  rw [reply_item hid, replyItem]
  simp only [withBody, Option.bind_some, FieldUpdate.readJson_compact]

lemma saveField_done (hid : Id.isValid id) (hd : Bindings.get? id holding.shelf = some d)
    (field : Stage) (text : String) : keeper.service.saveField id field text holding
      = .ok () (holding.after
        ⟨.patch, keeper.service.item id, some (FieldUpdate.toJson ⟨field, text⟩)⟩
        (Bindings.insert id (d.updateField (keeper.clock holding.received.length) field text)
          holding.shelf)) := by
  have hreply := (keeper.reply_patch hid holding.received.length holding.shelf field text).trans
    (withDocument_some hd _)
  have hask := ask_done .noDocument id (by decide) hreply
  rw [Service.saveField, checkId_passed hid, Storing.bind_ok hask]
  rfl

lemma saveField_missing (hid : Id.isValid id) (hd : Bindings.get? id holding.shelf = none)
    (field : Stage) (text : String) : keeper.service.saveField id field text holding
      = .error (.notFound id) (holding.after
        ⟨.patch, keeper.service.item id, some (FieldUpdate.toJson ⟨field, text⟩)⟩
        holding.shelf) := by
  have hreply := (keeper.reply_patch hid holding.received.length holding.shelf field text).trans
    (withDocument_none hd _)
  rw [Service.saveField, checkId_passed hid, Storing.bind_error (ask_missing hreply)]

lemma remove_done (hid : Id.isValid id) (hd : Bindings.get? id holding.shelf = some d) :
    keeper.service.remove id holding = .ok () (holding.after
      ⟨.delete, keeper.service.item id, none⟩ (Bindings.erase id holding.shelf)) := by
  have hreply : keeper.reply holding.received.length holding.shelf
      ⟨.delete, keeper.service.item id, none⟩
        = (.answered 204 "", Bindings.erase id holding.shelf) := by
    rw [reply_item hid]
    exact withDocument_some hd _
  have hask := ask_done .noDocument id (by decide) hreply
  rw [Service.remove, checkId_passed hid, Storing.bind_ok hask]
  rfl

lemma remove_missing (hid : Id.isValid id) (hd : Bindings.get? id holding.shelf = none) :
    keeper.service.remove id holding = .error (.notFound id) (holding.after
      ⟨.delete, keeper.service.item id, none⟩ holding.shelf) := by
  have hreply : keeper.reply holding.received.length holding.shelf
      ⟨.delete, keeper.service.item id, none⟩ = (.answered 404 "", holding.shelf) := by
    rw [reply_item hid]
    exact withDocument_none hd _
  rw [Service.remove, checkId_passed hid, Storing.bind_error (ask_missing hreply)]

/-- A listing shows what is on the shelf, in its order, however it was arranged. -/
lemma list_done (hsound : holding.shelf.Sound)
    (htimes : holding.shelf.documents.Dated Timestamp.InRange) :
    keeper.service.list holding = .ok (Shelf.summaries holding.shelf)
      (holding.after ⟨.get, keeper.service.collection, none⟩ holding.shelf) := by
  have hperm := keeper.arrange_perm holding.received.length
    (holding.shelf.map fun (_, d) => d.summary)
  have hrange : ∀ s ∈ keeper.arrange holding.received.length
      (holding.shelf.map fun (_, d) => d.summary), s.modifiedAt.InRange := by
    intro s hs
    obtain ⟨⟨id, d⟩, hmem, rfl⟩ := List.mem_map.mp (hperm.mem_iff.mp hs)
    exact htimes id d ((Bindings.mem_iff_get?_eq hsound.nodup).mp hmem)
  have hreply : keeper.reply holding.received.length holding.shelf
      ⟨.get, keeper.service.collection, none⟩
        = (.answered 200 (keeper.listing holding.received.length holding.shelf),
          holding.shelf) := by
    have hroute : route? (Service.collectionOf keeper.base) keeper.service.collection
        = some .collection := route_collection keeper.base
    rw [reply, hroute]
    rfl
  have hask := ask_done .noService "" (by decide) hreply
  rw [carried_ok] at hask
  have hdecode (h : Holding) : Service.decode (Wire.list? Summary.ofWire?)
      (keeper.listing holding.received.length holding.shelf) h = .ok _ h :=
    decode_apply (Summary.readJson_compact hrange) h
  have horder : Summary.newestFirst (keeper.arrange holding.received.length
      (holding.shelf.map fun (_, d) => d.summary)) = Shelf.summaries holding.shelf :=
    (Summary.newestFirst_congr (Shelf.nodup_ids hsound) hperm.symm).symm
  rw [Service.list, Storing.bind_ok hask, Storing.bind_ok (hdecode _), horder]
  rfl

end Operations

/-! ### Calls -/

section Calls

variable {keeper : Keeper} {holding : Holding} {call : Call} {e : StoreError} {id name : String}
  {d : Document}

/-- What the clock of the service shows when a call changes something, after this many
requests. -/
def reading (keeper : Keeper) (n : Nat) : Call → Timestamp
  | .rename _ _ => keeper.clock (n + 1)
  | _ => keeper.clock n

/-- What is held after a call. -/
def Holding.afterCall (holding : Holding) (keeper : Keeper) (call : Call) (shelf : Shelf) :
    Holding :=
  ⟨shelf, holding.received ++ call.requests keeper.service (Shelf.catalogue holding.shelf)⟩

lemma afterCall_of_none (keeper : Keeper) (holding : Holding) (call : Call)
    (h : call.requests keeper.service (Shelf.catalogue holding.shelf) = []) :
    holding.afterCall keeper call holding.shelf = holding := by
  rw [Holding.afterCall, h, List.append_nil]

lemma afterCall_of_one (keeper : Keeper) (holding : Holding) (call : Call) {request : Request}
    {shelf : Shelf}
    (h : call.requests keeper.service (Shelf.catalogue holding.shelf) = [request]) :
    holding.afterCall keeper call shelf = holding.after request shelf := by
  rw [Holding.afterCall, h, Holding.after]

/-- An operation on a document that there is not: it asks for it, if its id is one. -/
lemma error_of_absence {α : Type} {next : Unit → Storing Holding α} {request : Request}
    (keeper : Keeper) (call : Call)
    (hrequests : call.requests keeper.service (Shelf.catalogue holding.shelf)
      = if Id.isValid id then [request] else [])
    (hmissing : Id.isValid id → Bindings.get? id holding.shelf = none →
      (checkId id >>= next) holding = .error (.notFound id) (holding.after request holding.shelf))
    (h : (Shelf.catalogue holding.shelf).absence? id = some e) :
    (checkId id >>= next) holding = .error e (holding.afterCall keeper call holding.shelf) := by
  obtain ⟨hid, rfl⟩ | ⟨hid, hd, rfl⟩ := Shelf.absence_cases h
  · rw [afterCall_of_none keeper holding call (hrequests.trans (if_neg hid))]
    exact checkId_refused hid next
  · rw [afterCall_of_one keeper holding call (hrequests.trans (if_pos hid))]
    exact hmissing hid hd

lemma get_refused (h : (Shelf.catalogue holding.shelf).absence? id = some e) :
    keeper.service.get id holding
      = .error e (holding.afterCall keeper (.get id) holding.shelf) :=
  error_of_absence keeper (.get id) rfl get_missing h

lemma saveField_refused (h : (Shelf.catalogue holding.shelf).absence? id = some e)
    (field : Stage) (text : String) : keeper.service.saveField id field text holding
      = .error e (holding.afterCall keeper (.saveField id field text) holding.shelf) :=
  error_of_absence keeper (.saveField id field text) rfl
    (fun hid hd => saveField_missing hid hd field text) h

lemma remove_refused (h : (Shelf.catalogue holding.shelf).absence? id = some e) :
    keeper.service.remove id holding
      = .error e (holding.afterCall keeper (.remove id) holding.shelf) :=
  error_of_absence keeper (.remove id) rfl remove_missing h

/-- Where there is no document, a rename ends with the request for it. -/
lemma rename_refused (h : (Shelf.catalogue holding.shelf).absence? id = some e) (now : Timestamp)
    (name : String) : keeper.service.store.rename now id name holding
      = .error e (holding.afterCall keeper (.rename id name) holding.shelf) := by
  have hget : keeper.service.store.rename now id name holding
      = .error e (holding.afterCall keeper (.get id) holding.shelf) :=
    Storing.bind_error (get_refused h)
  have hrequests : Call.requests keeper.service (Shelf.catalogue holding.shelf) (.rename id name)
      = Call.requests keeper.service (Shelf.catalogue holding.shelf) (.get id) := by
    obtain ⟨hid, -⟩ | ⟨hid, hd, -⟩ := Shelf.absence_cases h
    · rw [Call.requests, Call.requests, if_neg hid, if_neg hid]
    · have hmissing : Shelf.catalogue holding.shelf id = none := Option.map_eq_none_iff.mpr hd
      rw [Call.requests, Call.requests, if_pos hid, if_pos hid, hmissing]
      rfl
  rw [hget, Holding.afterCall, Holding.afterCall, hrequests]

/-- A call that fails says why; nothing is sent for a text that is no id. -/
lemma answer_refused (now : Timestamp)
    (hcall : call.refusal? (Shelf.catalogue holding.shelf) = some e) :
    keeper.service.store.answer now call holding
      = (.failed e, holding.afterCall keeper call holding.shelf) := by
  refine DocumentStore.answer_of_error ?_
  cases call with
  | list => cases hcall
  | get id => exact Storing.bind_error (get_refused hcall)
  | save id name sources =>
    rw [Call.refusal?] at hcall
    split at hcall
    · cases hcall
    · next hid =>
      cases hcall
      rw [afterCall_of_none keeper holding (.save id name sources) (if_neg hid)]
      exact Storing.bind_error (checkId_refused hid _)
  | saveField id field text => exact Storing.bind_error (saveField_refused hcall field text)
  | remove id => exact Storing.bind_error (remove_refused hcall)
  | rename id name => exact Storing.bind_error (rename_refused hcall now name)

/-- A document is renamed by two requests. -/
lemma rename_done (hsound : holding.shelf.Sound) (hd : Bindings.get? id holding.shelf = some d)
    (htime : d.modifiedAt.InRange) (now : Timestamp) (name : String) :
    keeper.service.store.rename now id name holding
      = .ok () (holding.afterCall keeper (.rename id name) (Bindings.insert id
        ⟨id, name, keeper.clock (holding.received.length + 1), d.sources⟩ holding.shelf)) := by
  have hid := (hsound.keyed id d hd).1
  have hrename : keeper.service.store.rename now id name holding = keeper.service.save id name
      d.sources (holding.after ⟨.get, keeper.service.item id, none⟩ holding.shelf) :=
    Storing.bind_ok (get_found hsound hd htime)
  have hentry : Shelf.catalogue holding.shelf id = some (d.name, d.sources) :=
    Option.map_eq_some_iff.mpr ⟨d, hd, rfl⟩
  rw [hrename, save_done hid, Holding.afterCall, Call.requests, if_pos hid, hentry]
  simp only [Holding.after, List.length_append, List.length_singleton, List.append_assoc]
  rfl

/-- A call through the service is the call on its shelf, at the time that its clock
shows. -/
theorem answer_eq (now : Timestamp) (hsound : holding.shelf.Sound)
    (hrange : holding.shelf.documents.Dated Timestamp.InRange)
    (hpast : holding.shelf.documents.Dated
      (·.Before (keeper.reading holding.received.length call))) :
    keeper.service.store.answer now call holding
      = ((Shelf.store.answer (keeper.reading holding.received.length call) call holding.shelf).1,
        holding.afterCall keeper call (Shelf.store.answer
          (keeper.reading holding.received.length call) call holding.shelf).2) := by
  cases hcall : call.refusal? (Shelf.catalogue holding.shelf) with
  | some e => rw [answer_refused now hcall, Shelf.answer_refused hcall]
  | none =>
    cases call with
    | list =>
      rw [Shelf.answer_list, afterCall_of_one keeper holding .list rfl]
      exact DocumentStore.answer_of_ok (Storing.bind_ok (list_done hsound hrange))
    | get id =>
      obtain ⟨d, hd⟩ := Shelf.exists_find hcall
      obtain ⟨hid, hget, -⟩ := Shelf.find_eq_ok.mp hd
      rw [Shelf.answer_get hd, afterCall_of_one keeper holding (.get id) (if_pos hid)]
      exact DocumentStore.answer_of_ok (Storing.bind_ok (get_found hsound hget (hrange id d hget)))
    | save id name sources =>
      have hid := Call.isValid_of_save hcall
      rw [Shelf.answer_save hid, Shelf.savedOver_eq hsound hpast,
        afterCall_of_one keeper holding (.save id name sources) (if_pos hid)]
      exact DocumentStore.answer_of_ok (Storing.bind_ok (save_done hid name sources))
    | saveField id field text =>
      obtain ⟨d, hd⟩ := Shelf.exists_find hcall
      obtain ⟨hid, hget, -⟩ := Shelf.find_eq_ok.mp hd
      rw [Shelf.answer_saveField hd,
        afterCall_of_one keeper holding (.saveField id field text) (if_pos hid)]
      exact DocumentStore.answer_of_ok (Storing.bind_ok (saveField_done hid hget field text))
    | remove id =>
      obtain ⟨d, hd⟩ := Shelf.exists_find hcall
      obtain ⟨hid, hget, -⟩ := Shelf.find_eq_ok.mp hd
      rw [Shelf.answer_remove hd, afterCall_of_one keeper holding (.remove id) (if_pos hid)]
      exact DocumentStore.answer_of_ok (Storing.bind_ok (remove_done hid hget))
    | rename id name =>
      obtain ⟨d, hd⟩ := Shelf.exists_find hcall
      obtain ⟨hid, hget, -⟩ := Shelf.find_eq_ok.mp hd
      have hshelf : Shelf.store.get id holding.shelf = .ok d holding.shelf := hd
      rw [DocumentStore.answer_rename hshelf, Shelf.answer_save hid,
        Shelf.savedOver_eq hsound hpast]
      exact DocumentStore.answer_of_ok
        (Storing.bind_ok (rename_done hsound hget (hrange id d hget) now name))

end Calls

end Keeper

end MockupStudio
