import Promotions.Http.Api
import Promotions.Proofs.Refusals
import Promotions.Proofs.Tenancy

/-!
What an owner reads and sends back as a change. The content of a promotion that keeps the rules
passes validation as it is, and the members of the JSON that shows a promotion are read as that
content, in whatever order they are sent. So whoever sends back what was read changes nothing.
-/

namespace Promotions

open Text Json

/-! ### Content that passes as it is -/

theorem demand_of_true {kept : Bool} (h : kept = true) (v : Violation) :
    demand kept v = .ok () := by
  rw [h]
  rfl

theorem blankToNone_of_not_blank {s : String} (h : blank s = false) :
    blankToNone (some s) = some s := by
  simp [blankToNone, Option.filter, h]

/-- The code of a country is a name of it. -/
theorem capitals_of_code : ∀ code ∈ countryCodes,
    blank code = false ∧ (trim code).map Char.toUpper = code := by
  decide +kernel

theorem Target.normalCountry_of_code {country : Option String}
    (h : ∀ code, country = some code → code ∈ countryCodes) :
    normalCountry country = .ok country := by
  cases country with
  | none => rfl
  | some code =>
    have hmem := h code rfl
    obtain ⟨hblank, hcapitals⟩ := capitals_of_code code hmem
    have hnamed : country? code = some code := names_country_iff.mpr ⟨hcapitals, hmem⟩
    simp only [normalCountry, blankToNone_of_not_blank hblank, hnamed]

theorem Target.WellFormed.normalise {t : Target} (h : t.WellFormed) : t.normalise = .ok t := by
  have hlong : t.categories.find? (fun c => 20 < c.length) = none := by
    simpa using h.categories
  rw [Target.normalise, demand_of_true (ageFits_iff.mpr h.ageFrom),
    demand_of_true (ageFits_iff.mpr h.ageUntil), demand_of_true (agesOrdered_iff.mpr h.ages),
    normalCountry_of_code h.country]
  simp only [bind, Except.bind, hlong]

theorem Content.WellFormed.normalise {c : Content} (h : c.WellFormed) : c.normalise = .ok c := by
  have himage : blankToNone c.imageUrl = c.imageUrl := by
    cases hurl : c.imageUrl with
    | none => rfl
    | some url => exact blankToNone_of_not_blank (h.imageUrl url hurl).1
  have hlength : c.imageUrl.all (lengthWithin 0 350) = true := by
    simpa [Option.all_eq_true, lengthWithin] using fun url hurl => (h.imageUrl url hurl).2.2
  have hvalid : c.imageUrl.all (fun s => (Url.ofString? s).isSome) = true := by
    simpa [Option.all_eq_true] using fun url hurl => (h.imageUrl url hurl).2.1
  rw [Content.normalise, himage, demand_of_true (lengthWithin_iff.mpr h.description),
    demand_of_true hlength, demand_of_true hvalid, h.target.normalise]
  rfl

/-- A request for content, and for nothing that never changes. -/
def UpdateRequest.ofContent (c : Content) : UpdateRequest := ⟨c, none, none, none, none⟩

/-- To send well-formed content back is to ask for the same content. -/
theorem UpdateRequest.changes_ofContent {c : Content} (h : c.WellFormed) :
    (ofContent c).changes = .ok c := by
  have hperiod : c.periodOrdered = true := Content.periodOrdered_iff.mpr h.period
  have hcontent : (ofContent c).content.normalise = .ok c := h.normalise
  rw [changes, hcontent]
  change (do demand c.periodOrdered .period; _) = _
  rw [demand_of_true hperiod]
  rfl

/-! ### Content as the body of a change -/

namespace UpdateRequest

def fieldOf (c : Content) : (f : Field) → Field.Content f
  | .description => c.description
  | .imageUrl => c.imageUrl
  | .target => c.target
  | .activeFrom => c.activeFrom
  | .activeUntil => c.activeUntil
  | .mode | .maxCount | .promoCommon | .promoUnique => none

def fieldJsonOf (c : Content) : Field → Value
  | .description => .text c.description
  | .imageUrl => .orNull (c.imageUrl.map .text)
  | .target => c.target.toJson
  | .activeFrom => .orNull (c.activeFrom.map Calendar.Instant.toJson)
  | .activeUntil => .orNull (c.activeUntil.map Calendar.Instant.toJson)
  | .mode | .maxCount | .promoCommon | .promoUnique => .null

def contentFields : List Field := [.description, .imageUrl, .target, .activeFrom, .activeUntil]

theorem named_shape : shape.Named := by
  refine ⟨by decide, fun f => ?_⟩
  cases f <;> decide

theorem prints_fieldOf (c : Content) (levels : Nat) (f : Field) :
    Prints (shape.read f (levels + 1)) (fieldJsonOf c f).render (fieldOf c f) := by
  cases f with
  | description => exact prints_text c.description
  | imageUrl => exact prints_optionalText c.imageUrl
  | target => exact c.target.prints levels
  | activeFrom => exact prints_optionalInstant c.activeFrom
  | activeUntil => exact prints_optionalInstant c.activeUntil
  | mode | maxCount | promoCommon | promoUnique =>
    have hnone : Prints (optional (value (levels + 1)))
        (Value.orNull ((none : Option Value).map fun _ => .text "")).render none :=
      prints_optional none nofun fun _ => head_text_ne_null ""
    exact hnone

theorem prints_ofContent (c : Content) {fs : List Field} (hfs : fs.Perm contentFields)
    (levels : Nat) :
    Prints (shape.reader (levels + 2)) (Value.object (shape.members (fieldJsonOf c) fs)).render
      (ofContent c) := by
  have hnodup : fs.Nodup := hfs.nodup_iff.mpr (by decide)
  refine Shape.prints_object_of_fields named_shape hnodup (prints_fieldOf c levels) ?_
  simp only [hfs.mem_iff]
  rfl

end UpdateRequest

/-- The members of an object that have the given names, in the order of the names. -/
def Json.Value.only (names : List String) (v : Value) : Value :=
  .object (names.filterMap fun name => (v.get? name).map (name, ·))

def contentNames : List String := ["description", "imageUrl", "target", "activeFrom", "activeUntil"]

/-- The members that show what may change are those of a request for it. -/
theorem Detail.exists_members_of_only (d : Detail) {names : List String}
    (hnames : names.Perm contentNames) : ∃ fs : List UpdateRequest.Field,
      fs.Perm UpdateRequest.contentFields ∧ d.toJson.only names = .object
        (UpdateRequest.shape.members (UpdateRequest.fieldJsonOf d.promotion.content) fs) := by
  have hfields : names.Perm (UpdateRequest.contentFields.map UpdateRequest.shape.name) := hnames
  obtain ⟨fs, rfl, hfs⟩ := (congrFun₂ (List.eq_map_comp_perm _) _ _).mpr hfields
  refine ⟨fs, hfs, ?_⟩
  have hmember : ∀ f ∈ fs, d.toJson.get? (UpdateRequest.shape.name f) =
      some (UpdateRequest.fieldJsonOf d.promotion.content f) := by
    intro f hf
    have hcontent := hfs.mem_iff.mp hf
    cases f with
    | description | imageUrl | target | activeFrom | activeUntil => rfl
    | mode | maxCount | promoCommon | promoUnique => simp [UpdateRequest.contentFields] at hcontent
  rw [Json.Value.only, List.filterMap_map, Shape.members, ← List.filterMap_eq_map]
  congr 1
  refine List.filterMap_congr fun f hf => ?_
  simp [hmember f hf]

/-- Whatever is shown of a promotion is read, as the body of a change, as its content. -/
theorem Detail.parse_only (d : Detail) {names : List String} (hnames : names.Perm contentNames) :
    UpdateRequest.parse (d.toJson.only names).print = .ok (.ofContent d.promotion.content) := by
  obtain ⟨fs, hfs, hmembers⟩ := d.exists_members_of_only hnames
  have hchars : (d.toJson.only names).print.toList = (d.toJson.only names).render :=
    String.toList_ofList
  apply parse_of_prints
  rw [hchars, hmembers]
  exact UpdateRequest.prints_ofContent d.promotion.content hfs 125

/-! ### Requests that are understood -/

namespace Http

variable {r : Request} {segment : List Char} {company id : Uuid}

theorem get_of_understood (hcaller : r.caller = .ok company)
    (hsegment : promotionId segment = .ok id) :
    get r segment = Service.get id company >>= fun detail =>
      pure (answered detail fun d => .ofJson 200 d.toJson) := by
  have hknown : callerOrRefusal r = .ok company := by
    rw [callerOrRefusal, hcaller]
    rfl
  rw [get, hknown, understood, hsegment, understood]

theorem update_of_understood (hcaller : r.caller = .ok company)
    (hsegment : promotionId segment = .ok id) (hjson : saysJson r = true) {request : UpdateRequest}
    (hbody : UpdateRequest.parse r.body = .ok request) :
    update r segment = Service.update id company request >>= fun done =>
      pure (answered done fun _ => { status := 204 }) := by
  have hknown : callerOrRefusal r = .ok company := by
    rw [callerOrRefusal, hcaller]
    rfl
  have hread : bodyAs UpdateRequest.parse r = .ok request := by
    rw [bodyAs, if_pos hjson, hbody]
  rw [update, hknown, understood, hsegment, understood, hread, understood]

end Http

/-! ### Reading and sending back -/

namespace Memory

/-- What is replaced by itself stays as it is. -/
theorem Store.Distinct.update_same {s : Store} (h : s.Distinct) {p : Promotion}
    (hp : p ∈ s.promotions) : s.update p.id p.companyId p.content = (.ok (), s) := by
  have hfound : s.find? p.id = some p := h.find?_eq_some_iff.mpr ⟨hp, rfl⟩
  have hsame : s.modify p.id (fun q => { q with content := p.content }) = s := by
    have hmap : s.promotions.map (fun q =>
        if q.id = p.id then { q with content := p.content } else q) = s.promotions.map id := by
      refine List.map_congr_left fun q hq => ?_
      split
      · rename_i hid
        obtain rfl := h.eq_of_id_eq hq hp hid
        rfl
      · rfl
    rw [Store.modify, hmap, List.map_id]
  simp only [Store.update, Store.owned, hfound, if_true, hsame]

namespace Environment

variable {e : Environment}

theorem perform_bind_pure {α β : Type} (e : Environment) (d : Action α) (f : α → β) :
    e.perform (d >>= fun a => pure (f a)) = (f (e.perform d).1, (e.perform d).2) :=
  perform_bind ..

/-- A change that passes and that the store carries out. -/
theorem perform_update_of_ok {id company : Uuid} {r : UpdateRequest} {content : Content}
    {after : Store} (hchanges : r.changes = .ok content)
    (hstored : e.store.update id company content = (.ok (), after)) :
    (e.perform (Service.update id company r)).1 = .ok () ∧
      (e.perform (Service.update id company r)).2.store = after := by
  have hanswer : e.answer (.store (.update id company content)) =
      (.ok (), { e with store := after }) := by
    simp only [answer, answerStore, hstored]
  have hperform : e.perform (Service.update id company r) =
      { e with store := after }.perform (Service.settle id (.ok ())) := by
    simp only [Service.update, hchanges]
    change e.perform (.ask (.store (.update id company content)) (Service.settle id)) = _
    rw [perform_ask, hanswer]
  rw [hperform]
  exact ⟨rfl, rfl⟩

/-- The owner of a promotion is shown what the store has. -/
theorem Coherent.perform_get_of_owner (h : e.Coherent) {p : Promotion}
    (hp : e.store.find? p.id = some p) :
    (e.perform (Service.get p.id p.companyId)).1 = (e.directory.name p.companyId).map p.detail ∧
      (e.perform (Service.get p.id p.companyId)).2.store = e.store := by
  refine ⟨?_, store_perform_of_reads (o := .get p.id p.companyId) rfl h.working⟩
  have hresult := h.result (rfl : e.bare = e.bare) (.get p.id p.companyId)
  rw [result_plain_get, hp] at hresult
  refine hresult.trans ?_
  simp only [Service.stored, Service.reply, if_true]
  rfl

end Environment

namespace System

/-- What the owner of a promotion reads and sends back changes nothing. From an empty store and an
empty cache, whatever calls are made, in whatever order their steps are taken: in a state in which
the cache is healthy, the owner of a promotion that is in the store is shown it as it is stored,
under the name that the directory gives. And if the owner then sends back, as the body of a change,
the members that show description, image address, target and period, in any order, the body is read,
the change passes with the very content that is stored, it is carried out, and every promotion with
all its counts is stored as before. -/
theorem sent_back_changes_nothing {cache : Cache} {ms : List Move} {s : System}
    (hempty : cache.entries = []) (hrun : (start {} cache).run ms = some s) (hhealthy : s.Healthy)
    {e : Environment} (he : Surrounds e s) {p : Promotion} (hp : p ∈ s.store.promotions)
    {read write : Http.Request} {segment : List Char} (hread : read.caller = .ok p.companyId)
    (hwrite : write.caller = .ok p.companyId) (hsegment : Http.promotionId segment = .ok p.id) :
    let shown := e.perform (Http.get read segment)
    shown.1 = Http.answered ((e.directory.name p.companyId).map p.detail)
        (fun d => .ofJson 200 d.toJson) ∧
      ∀ name, e.directory.name p.companyId = .ok name →
        ∀ names, names.Perm contentNames → Http.saysJson write = true →
          write.body = ((p.detail name).toJson.only names).print →
            (∃ r, UpdateRequest.parse write.body = .ok r ∧ r.changes = .ok p.content) ∧
              (shown.2.perform (Http.update write segment)).1 = { status := 204 } ∧
              (shown.2.perform (Http.update write segment)).2.store = s.store := by
  have hlawful : s.shared.world.All Promotion.Lawful :=
    (sound_start {} cache).lawful_run (poses_start {} cache) (fun p hp => by cases hp) hrun
  have hdistinct : s.store.Distinct := (traced_run hempty hrun).distinct.toStore
  have hcoherent : e.Coherent :=
    hhealthy.coherent ((coherent_start {} hempty).run (sound_start {} cache) hrun) he
  have hfound : e.store.find? p.id = some p := he.store ▸ hdistinct.find?_eq_some_iff.mpr ⟨hp, rfl⟩
  obtain ⟨hresult, hstore⟩ := hcoherent.perform_get_of_owner hfound
  rw [Http.get_of_understood hread hsegment, Environment.perform_bind_pure, hresult]
  refine ⟨rfl, fun name hname names hnames hjson hbody => ?_⟩
  have hparse : UpdateRequest.parse write.body = .ok (.ofContent p.content) :=
    hbody ▸ (p.detail name).parse_only hnames
  have hchanges : (UpdateRequest.ofContent p.content).changes = .ok p.content :=
    UpdateRequest.changes_ofContent (hlawful p hp).content
  refine ⟨⟨_, hparse, hchanges⟩, ?_⟩
  have hupdate : (e.perform (Service.get p.id p.companyId)).2.store.update p.id p.companyId
      p.content = (.ok (), s.store) := by
    rw [hstore, he.store]
    exact hdistinct.update_same hp
  obtain ⟨hdone, hafter⟩ := Environment.perform_update_of_ok hchanges hupdate
  rw [Http.update_of_understood hwrite hsegment hjson hparse, Environment.perform_bind_pure]
  exact ⟨congrArg (Http.answered · fun _ => { status := 204 }) hdone, hafter⟩

def neighbourAsks (method body : String) : Http.Request where
  method := method
  target := "/api/promos/" ++ toString (Supply.idAt 4)
  headers := [("X-Company-Id", toString (Supply.idAt 2)), ("Content-Type", "application/json")]
  body := body

/-- The neighbour is shown its promotion and sends the content back, and the store is as before. -/
theorem neighbour_sends_back : ∃ s, (start {} {}).run neighbours = some s ∧
    ∃ p ∈ s.store.promotions, p.id = Supply.idAt 4 ∧ p.content.target.country = some "BR" ∧
      ∀ e : Environment, Surrounds e s → e.directory = { names := [(Supply.idAt 2, "Padaria")] } →
        let body := ((p.detail "Padaria").toJson.only contentNames).print
        let segment := (toString (Supply.idAt 4)).toList
        let shown := e.perform (Http.get (neighbourAsks "GET" "") segment)
        shown.1 = .ofJson 200 (p.detail "Padaria").toJson ∧
          (shown.2.perform (Http.update (neighbourAsks "PATCH" body) segment)).2.store =
            s.store := by
  obtain ⟨s, hs⟩ := Option.isSome_iff_exists.mp
    (by decide +kernel : ((start {} {}).run neighbours).isSome)
  have hcreated : ((start {} {}).run neighbours).map (fun s => (s.outline.1, s.outline.2.1)) =
      some ([Supply.idAt 3, Supply.idAt 4], true) := by decide +kernel
  have hstored : ((start {} {}).run neighbours).map (fun s =>
      (s.store.find? (Supply.idAt 4)).map fun p => (p.companyId, p.content.target.country)) =
        some (some (Supply.idAt 2, some "BR")) := by decide +kernel
  have hcaller (method body : String) : (neighbourAsks method body).caller =
      .ok (Supply.idAt 2) := by
    have hsame : (neighbourAsks method body).caller = (neighbourAsks "GET" "").caller := rfl
    rw [hsame]
    decide +kernel
  have hjson (body : String) : Http.saysJson (neighbourAsks "PATCH" body) = true := by
    have hsame : Http.saysJson (neighbourAsks "PATCH" body) =
      Http.saysJson (neighbourAsks "PATCH" "") := rfl
    rw [hsame]
    decide +kernel
  have hsegment : Http.promotionId (toString (Supply.idAt 4)).toList = .ok (Supply.idAt 4) := by
    cbv
  simp only [hs, Option.map_some, Option.some.injEq, outline, Prod.mk.injEq] at hcreated hstored
  obtain ⟨hids, hall⟩ := hcreated
  have hfresh : s.IdsFresh := by
    rw [IdsFresh, hids]
    decide +kernel
  have hhealthy : s.Healthy :=
    healthy_of_run rfl rfl hs hfresh (by decide) (List.all_eq_true.mp hall)
  obtain ⟨p, hp, hfields⟩ := Option.map_eq_some_iff.mp hstored
  obtain ⟨hcompany, hcountry⟩ := Prod.mk.inj hfields
  obtain ⟨hmem, hid⟩ := Store.mem_of_find? hp
  refine ⟨s, hs, p, hmem, hid, hcountry, fun e he hdirectory => ?_⟩
  have hname : e.directory.name p.companyId = .ok "Padaria" := by
    rw [hdirectory, hcompany]
    decide +kernel
  obtain ⟨hshown, hwritten⟩ := sent_back_changes_nothing rfl hs hhealthy he hmem
    ((hcaller "GET" "").trans (congrArg _ hcompany.symm))
    ((hcaller "PATCH" ((p.detail "Padaria").toJson.only contentNames).print).trans
      (congrArg _ hcompany.symm))
    (hsegment.trans (congrArg _ hid.symm))
  refine ⟨hshown.trans (by rw [hname]; rfl), ?_⟩
  exact (hwritten "Padaria" hname contentNames (.refl _) (hjson _) rfl).2.2

end System

end Memory

end Promotions
