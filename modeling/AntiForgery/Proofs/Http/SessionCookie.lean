import AntiForgery.Proofs.Http.Answers
import AntiForgery.Proofs.Http.Tenure

/-!
# How long a session is promised to last

The record of a session and the cookie that holds its id are made from one number of seconds.  The number is
the configured one as an integer of any size, brought into the range that a clock can count; and where the
store's clock does not reach the end, there is neither a record nor a cookie.
-/

namespace AntiForgery

/-- The lifetime is the number of seconds in so many days, at least one and at most what a clock can
count. -/
theorem Session.Settings.toInt_lifetime (settings : Settings) :
    (settings.lifetime : Int) =
      max 1 (min (settings.durationDays.toInt * 86400) 9223372036854775807) := by
  have days : Seconds.perDay.toInt = 86400 := by decide
  have least : Int64.minValue.toInt = -9223372036854775808 := by decide
  have largest : Int64.maxValue.toInt = 9223372036854775807 := by decide
  rw [lifetime, Seconds.toLifetime, Seconds.times, Seconds.toInt_clamp, days, least, largest]
  omega

theorem Store.find?_write (key : String) (deadline : Nat) (store : Store) :
    (store.write key deadline).table.find? key = some ⟨key, deadline⟩ := by
  simp [write, Table.find?, Table.put]

namespace Http

/-! ## The parts of a cookie -/

namespace Cookie

/-- The parts of a cookie that is handed out: the pair of its name and value, and its attributes. -/
def parts (cookie : String) : List String :=
  (Text.pieces ';' cookie.toList).map fun piece => String.ofList (Text.trimChars piece)

/-- The text can be a part as it is. -/
def IsPart (text : String) : Prop :=
  ∀ char ∈ text.toList, Text.isBlank char = false ∧ char ≠ ';'

instance (text : String) : Decidable (IsPart text) :=
  List.decidableBAll (fun char => Text.isBlank char = false ∧ char ≠ ';') text.toList

theorem trimChars_of_isPart {text : String} (part : IsPart text) :
    Text.trimChars text.toList = text.toList :=
  Text.trimChars_of_forall fun char member => (part char member).1

theorem trimChars_blank (chars : List Char) :
    Text.trimChars (' ' :: chars) = Text.trimChars chars := by
  have blank : Text.isBlank ' ' = true := by decide
  rw [Text.trimChars, List.dropWhile_cons, if_pos blank, Text.trimChars]

/-- A cookie that is written from parts, each but the first behind a blank, has these parts. -/
theorem parts_of_join {cookie first : String} {others : List String}
    (plain : ∀ part ∈ first :: others, IsPart part)
    (written : cookie.toList =
      Text.join ';' (first.toList :: others.map fun part => ' ' :: part.toList)) :
    parts cookie = first :: others := by
  have whole : ∀ piece ∈ first.toList :: others.map fun part => ' ' :: part.toList,
      ';' ∉ piece := by
    have letters : ∀ part ∈ first :: others, ';' ∉ part.toList :=
      fun part member inside => (plain part member _ inside).2 rfl
    rw [List.forall_mem_cons] at letters ⊢
    refine ⟨letters.1, ?_⟩
    simpa using letters.2
  have own : String.ofList (Text.trimChars first.toList) = first := by
    rw [trimChars_of_isPart (plain first List.mem_cons_self), String.ofList_toList]
  have attributes : ∀ part ∈ others, String.ofList (Text.trimChars (' ' :: part.toList)) = part := by
    intro part member
    rw [trimChars_blank, trimChars_of_isPart (plain part (List.mem_cons_of_mem _ member)),
      String.ofList_toList]
  rw [parts, written, Text.pieces_join (List.cons_ne_nil _ _) whole, List.map_cons, own,
    List.map_map]
  exact congrArg _ ((List.map_congr_left attributes).trans (List.map_id _))

/-- The cookie of an id holds neither a semicolon nor a blank. -/
theorem isPart_ofId (id : Session.Id) : IsPart (ofId id) := by
  intro char member
  rw [toList_ofId, List.mem_append, List.mem_cons] at member
  rcases member with name | rfl | value
  · exact ⟨(letter_of_mem_sessionName _ name).1, (letter_of_mem_sessionName _ name).2.1⟩
  · decide
  · exact letter_of_mem_text _ value

theorem isPart_maxAge (lifetime : Nat) : IsPart ("Max-Age=" ++ toString lifetime) := by
  have digit : ∀ n : Fin 128, (Char.ofNat n.val).isDigit = true →
      Text.isBlank (Char.ofNat n.val) = false ∧ Char.ofNat n.val ≠ ';' := by
    decide +kernel
  have name : IsPart "Max-Age=" := by decide +kernel
  have letters : (toString lifetime).toList = Nat.toDigits 10 lifetime := Nat.toList_repr
  intro char member
  rw [String.toList_append, List.mem_append, letters] at member
  rcases member with front | back
  · exact name char front
  · have isDigit := Nat.isDigit_of_mem_toDigits (by decide) (by decide) back
    have small : char.toNat < 128 := by
      simp only [Char.isDigit, ge_iff_le, Bool.and_eq_true, decide_eq_true_eq] at isDigit
      exact Nat.lt_of_le_of_lt (UInt32.le_iff_toNat_le.mp isDigit.2) (by decide)
    have own := digit ⟨char.toNat, small⟩
    rw [Char.ofNat_toNat] at own
    exact own isDigit

/-- The parts of the cookie that a new session is handed out in. -/
theorem parts_grant (id : Session.Id) (settings : Session.Settings) :
    parts (grant id settings) =
      ["session_id=" ++ id.text, "HttpOnly", "SameSite=Lax"] ++
        (if settings.secureCookies then ["Secure"] else []) ++
        ["Path=/", "Max-Age=" ++ toString settings.lifetime] := by
  have fixed : ∀ part ∈ ["HttpOnly", "SameSite=Lax", "Secure", "Path=/"], IsPart part := by
    decide +kernel
  have own := isPart_ofId id
  have age := isPart_maxAge settings.lifetime
  simp only [List.forall_mem_cons] at fixed
  cases secure : settings.secureCookies with
  | true =>
      change parts (grant id settings) = ofId id ::
        ["HttpOnly", "SameSite=Lax", "Secure", "Path=/", "Max-Age=" ++ toString settings.lifetime]
      refine parts_of_join ?_ ?_
      · simp only [List.forall_mem_cons]
        exact ⟨own, fixed.1, fixed.2.1, fixed.2.2.1, fixed.2.2.2.1, age, by simp⟩
      · simp [grant, ofId, secure, sessionName, Text.join]
  | false =>
      change parts (grant id settings) = ofId id ::
        ["HttpOnly", "SameSite=Lax", "Path=/", "Max-Age=" ++ toString settings.lifetime]
      refine parts_of_join ?_ ?_
      · simp only [List.forall_mem_cons]
        exact ⟨own, fixed.1, fixed.2.1, fixed.2.2.2.1, age, by simp⟩
      · simp [grant, ofId, secure, sessionName, Text.join]

end Cookie

/-! ## The start of a session -/

theorem values_cookie_withHeader (status : Nat) (body : List UInt8) (cookie : String) :
    ((Response.json status body).withHeader "set-cookie" cookie).values "set-cookie" = [cookie] := by
  simp [Response.values, Response.withHeader, Response.json]

theorem values_cookie_refusalResponse (refusal : Refusal) :
    (refusalResponse refusal).values "set-cookie" = [] := by
  simp [Response.values, refusalResponse, Response.json]

section Start

variable (service : Service) {world : World} (sound : world.store.condition = .sound)
include sound

/-- Where the store's clock gets to the end of a session, the session is started. -/
theorem startSession_of_within
    (within : world.store.clock / 1000 + service.session.lifetime ≤ Store.lastSecond) :
    (startSession service world).1 =
        (Response.json 201 (Response.success "Session started")).withHeader "set-cookie"
          (Cookie.grant (.next world.entropy) service.session) ∧
      (startSession service world).2.store =
        world.store.write (Session.Id.next world.entropy).storageKey
          (world.store.clock + 1000 * service.session.lifetime) := by
  have range := Store.deadline?_eq_some_iff.mpr ⟨within, rfl⟩
  have recorded : world.store.perform
      (.record (Session.Id.next world.entropy).storageKey service.session.lifetime) =
        (.ok (), world.store.write (Session.Id.next world.entropy).storageKey
          (world.store.clock + 1000 * service.session.lifetime)) := by
    rw [Store.perform_of_sound sound, Store.Table.perform_record, range]
    rfl
  simp only [startSession, Session.start, Session.Id.draw, Action.bind_apply,
    Action.onEntropy_apply, Action.ask_apply, recorded]
  exact ⟨rfl, rfl⟩

/-- Where it does not, the answer comes before there is a cookie. -/
theorem startSession_of_beyond
    (beyond : Store.lastSecond < world.store.clock / 1000 + service.session.lifetime) :
    ∃ refusal, (startSession service world).1 = refusalResponse refusal ∧
      refusalStatus refusal = 500 ∧ (startSession service world).2.store = world.store := by
  have range := Store.deadline?_eq_none_iff.mpr beyond
  have refused : world.store.perform
      (.record (Session.Id.next world.entropy).storageKey service.session.lifetime) =
        (.error (.lifetimeOutOfRange service.session.lifetime), world.store) := by
    rw [Store.perform_of_sound sound, Store.Table.perform_record, range]
  simp only [startSession, Session.start, Session.Id.draw, Action.bind_apply,
    Action.onEntropy_apply, Action.ask_apply, refused]
  exact ⟨_, rfl, rfl, rfl⟩

end Start

/-- The record and the cookie of a new session last equally long: as many seconds as the configured days
have, brought into the range from one to the last second that a clock can count.  If the store's clock gets
to the end of them, the record ends there, and the one cookie of the answer holds the id of the session as it is written, with this number as its greatest age; no other record
is touched.  Otherwise the answer is an internal error without a cookie, and the store is as it was. -/
theorem session_lasts_with_cookie
    (service : Service)
    {request : Request}
    (post : request.method = "POST")
    (path : request.path = "/api/session")
    (world : World)
    (sound : world.store.condition = .sound) :
    let lifetime := service.session.lifetime
    let answer := (handle service request world).1
    let after := (handle service request world).2.store
    let id : Session.Id := .next world.entropy
    (lifetime : Int) =
      max 1 (min (service.session.durationDays.toInt * 86400) 9223372036854775807) ∧
    (world.store.clock / 1000 + lifetime ≤ 9223372036854775807 →
      answer.status = 201 ∧
      after.table.find? ("session:" ++ id.text) =
        some ⟨"session:" ++ id.text, world.store.clock + 1000 * lifetime⟩ ∧
      (∀ key, key ≠ "session:" ++ id.text → Store.Keeps key world.store after) ∧
      ∃ cookie, answer.values "set-cookie" = [cookie] ∧
        Cookie.parts cookie =
          ["session_id=" ++ id.text, "HttpOnly", "SameSite=Lax"] ++
            (if service.session.secureCookies then ["Secure"] else []) ++
            ["Path=/", "Max-Age=" ++ toString lifetime]) ∧
    (9223372036854775807 < world.store.clock / 1000 + lifetime →
      answer.status = 500 ∧ answer.values "set-cookie" = [] ∧ after = world.store) := by
  intro lifetime answer after id
  have known : Route.ofPath? request.path = some (.free .start) := by
    rw [path]
    rfl
  have served : handle service request world = startSession service world :=
    handle_of_post service known post world
  refine ⟨service.session.toInt_lifetime, ?_, ?_⟩
  · intro within
    obtain ⟨handed, written⟩ := startSession_of_within service sound within
    rw [← served] at handed written
    have status : answer.status = 201 := congrArg Response.status handed
    have record : after.table.find? id.storageKey =
        some ⟨id.storageKey, world.store.clock + 1000 * lifetime⟩ :=
      (congrArg (·.table.find? id.storageKey) written).trans (Store.find?_write ..)
    have others : ∀ key, key ≠ id.storageKey → Store.Keeps key world.store after := by
      intro key different
      rw [show after = _ from written]
      exact .write different _ _
    exact ⟨status, record, others, Cookie.grant id service.session,
      (congrArg (·.values "set-cookie") handed).trans (values_cookie_withHeader ..),
      Cookie.parts_grant id service.session⟩
  · intro beyond
    obtain ⟨refusal, refused, status, kept⟩ := startSession_of_beyond service sound beyond
    rw [← served] at refused kept
    exact ⟨(congrArg Response.status refused).trans status,
      (congrArg (·.values "set-cookie") refused).trans (values_cookie_refusalResponse refusal), kept⟩

/-- Of the longest duration that can be configured, every second that a clock can count is promised, as long
as the store's clock still has them all ahead of it; a second later such a session cannot be started. -/
theorem session_lasts_with_cookie_longest :
    let service : Service :=
      ⟨⟨.ofKey ((List.range 16).map UInt8.ofNat), 3600⟩, ⟨9223372036854775807, true⟩⟩
    let request : Request := ⟨"POST", "/api/session", [], []⟩
    let world (clock : Nat) : World :=
      ⟨⟨.sound, .empty, clock⟩, 0, .ofList (List.replicate 16 0), []⟩
    (handle service request (world 999)).1.status = 201 ∧
    (∃ cookie, (handle service request (world 999)).1.values "set-cookie" = [cookie] ∧
      "Max-Age=9223372036854775807" ∈ Cookie.parts cookie) ∧
    (handle service request (world 1000)).1.status = 500 ∧
    (handle service request (world 1000)).1.values "set-cookie" = [] := by
  intro service request world
  have path : request.path = "/api/session" := by decide +kernel
  have longest : service.session.lifetime = 9223372036854775807 := by decide
  obtain ⟨_, within, _⟩ := session_lasts_with_cookie service rfl path (world 999) rfl
  obtain ⟨_, _, beyond⟩ := session_lasts_with_cookie service rfl path (world 1000) rfl
  obtain ⟨started, _, _, cookie, only, parts⟩ := within (by rw [longest]; decide)
  obtain ⟨failed, none, _⟩ := beyond (by rw [longest]; decide)
  refine ⟨started, ⟨cookie, only, ?_⟩, failed, none⟩
  have age : "Max-Age=9223372036854775807" = "Max-Age=" ++ toString 9223372036854775807 := by
    decide +kernel
  rw [parts, longest, age]
  exact List.mem_append_right _ (.tail _ (.head _))

end Http
end AntiForgery
