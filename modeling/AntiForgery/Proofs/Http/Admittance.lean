import AntiForgery.Proofs.Http.Gate
import AntiForgery.Proofs.Session.Letters
import AntiForgery.Proofs.Text.Utf8

/-!
# Who is let in

A client is given its session id in a cookie and sends it back in one: no letter of an id means
anything in a header, so the id arrives as it left.  The first gate lets the request in if the session
is live, and turns it away if it is not.
-/

namespace AntiForgery
namespace Http

/-! ## The cookie -/

namespace Cookie

/-- A text without white space and percent signs is meant as it stands. -/
theorem plain?_of_forall
    {text : String}
    (solid : ∀ char ∈ text.toList, Text.isBlank char = false)
    (bare : 0x25 ∉ Text.utf8 text) :
    plain? text.toList = some text := by
  rw [plain?, Text.trimChars_of_forall solid, String.ofList_toList,
    Text.percentDecode_of_not_mem bare, Text.ofUtf8?_utf8]

/-- A piece with an equals sign is a cookie if its name is not empty and both sides are texts. -/
theorem ofChars?_equals
    {name : List Char}
    (equals : '=' ∉ name)
    (value : List Char) :
    ofChars? (name ++ '=' :: value) =
      if (Text.trimChars name).isEmpty then none
      else
        match plain? name, plain? value with
        | some name, some value => some ⟨name, value⟩
        | _, _ => none := by
  have passes : ∀ char ∈ name, (char != '=') = true := by
    intro char member
    rw [bne_iff_ne]
    rintro rfl
    exact equals member
  have behind : (name ++ '=' :: value).dropWhile (· != '=') = '=' :: value := by
    rw [List.dropWhile_append_of_pos passes, List.dropWhile_cons_of_neg (by simp)]
  have front : (name ++ '=' :: value).takeWhile (· != '=') = name := by
    rw [List.takeWhile_append_of_pos passes, List.takeWhile_cons_of_neg (by simp), List.append_nil]
  rw [ofChars?, behind]
  generalize (name ++ '=' :: value).takeWhile (· != '=') = read at front ⊢
  subst front
  rfl

/-- A name and a value with an equals sign between them are a cookie. -/
theorem ofChars?_append
    {name value : String}
    (filled : name.toList ≠ [])
    (equals : '=' ∉ name.toList)
    (solid : ∀ char ∈ name.toList ++ value.toList, Text.isBlank char = false)
    (bare : 0x25 ∉ Text.utf8 name ++ Text.utf8 value) :
    ofChars? (name.toList ++ '=' :: value.toList) = some ⟨name, value⟩ := by
  have solidName : ∀ char ∈ name.toList, Text.isBlank char = false :=
    fun char member => solid char (List.mem_append_left _ member)
  have solidValue : ∀ char ∈ value.toList, Text.isBlank char = false :=
    fun char member => solid char (List.mem_append_right _ member)
  rw [List.mem_append, not_or] at bare
  have read : ¬ (Text.trimChars name.toList).isEmpty = true := by
    rwa [Text.trimChars_of_forall solidName, List.isEmpty_iff]
  rw [ofChars?_equals equals, if_neg read, plain?_of_forall solidName bare.1,
    plain?_of_forall solidValue bare.2]

/-- No letter of an id is white space or has a meaning in a header. -/
theorem letter_of_mem_text {id : Session.Id} :
    ∀ char ∈ id.text.toList, Text.isBlank char = false ∧ char ≠ ';' := by
  have cases : ∀ n : Fin 256,
      UInt8.ofNat n.val = Session.Id.hyphen ∨ Hex.IsLowerDigit (UInt8.ofNat n.val) →
        Text.isBlank (Char.ofNat n.val) = false ∧ Char.ofNat n.val ≠ ';' := by
    decide +kernel
  intro char member
  rw [Session.Id.text, Text.ofAscii, String.toList_ofList, List.mem_map] at member
  obtain ⟨letter, member, rfl⟩ := member
  rw [← Session.Id.utf8_text] at member
  have own := cases ⟨letter.toNat, letter.toNat_lt⟩
  rw [UInt8.ofNat_toNat] at own
  exact own (Session.Id.mem_utf8_text letter member)

theorem percent_notMem_utf8_text (id : Session.Id) : 0x25 ∉ Text.utf8 id.text := by
  intro member
  have letter := Session.Id.mem_utf8_text _ member
  revert letter
  decide

/-- The cookie that holds a session id. -/
def ofId (id : Session.Id) : String :=
  sessionName ++ "=" ++ id.text

theorem toList_ofId (id : Session.Id) :
    (ofId id).toList = sessionName.toList ++ '=' :: id.text.toList := by
  rw [ofId, String.toList_append, String.toList_append, List.append_assoc]
  rfl

/-- No letter of the cookie's name has a meaning in a header either. -/
theorem letter_of_mem_sessionName :
    ∀ char ∈ sessionName.toList, Text.isBlank char = false ∧ char ≠ ';' ∧ char ≠ '=' := by
  have letters : sessionName.toList.all
      (fun char => !Text.isBlank char && char != ';' && char != '=') = true := by decide +kernel
  intro char member
  have letter := List.all_eq_true.mp letters char member
  simp only [Bool.and_eq_true, Bool.not_eq_true', bne_iff_ne] at letter
  exact ⟨letter.1.1, letter.1.2, letter.2⟩

/-- The cookie that holds an id is read as its name and the text of the id. -/
theorem ofHeader_ofId (id : Session.Id) :
    ofHeader (Text.utf8 (ofId id)) = [⟨sessionName, id.text⟩] := by
  have whole : ';' ∉ (ofId id).toList := by
    rw [toList_ofId, List.mem_append, List.mem_cons, not_or, not_or]
    refine ⟨fun member => ?_, by decide, fun member => ?_⟩
    · exact (letter_of_mem_sessionName _ member).2.1 rfl
    · exact (letter_of_mem_text _ member).2 rfl
  have read : ofChars? (sessionName.toList ++ '=' :: id.text.toList) =
      some ⟨sessionName, id.text⟩ := by
    apply ofChars?_append
    · decide +kernel
    · intro member
      exact (letter_of_mem_sessionName _ member).2.2 rfl
    · intro char member
      rcases List.mem_append.mp member with own | own
      · exact (letter_of_mem_sessionName char own).1
      · exact (letter_of_mem_text char own).1
    · rw [List.mem_append, not_or]
      exact ⟨by decide +kernel, percent_notMem_utf8_text id⟩
  rw [ofHeader, Text.ofUtf8?_utf8]
  dsimp only
  rw [Text.pieces_of_not_mem whole, toList_ofId, List.filterMap_cons, read, List.filterMap_nil]

theorem find?_singleton (name value : String) : find? name [⟨name, value⟩] = some value := by
  simp [find?]

/-- A request whose cookie is the one that was handed out belongs to that session. -/
theorem session?_of_ofId
    {request : Request}
    {id : Session.Id}
    (returned : request.values "cookie" = [Text.utf8 (ofId id)]) :
    session? request = some id := by
  rw [session?, ofRequest, returned, List.flatMap_cons, List.flatMap_nil, ofHeader_ofId,
    List.append_nil, find?_singleton, Option.bind_some, Session.Id.parse?_text]

end Cookie

/-! ## The gate -/

namespace Gate

/-- The gate lets the request in as one of the session: what is behind the gate does its work, with
nothing changed but the journal. -/
def Admits (request : Request) (id : Session.Id) (world : World) : Prop :=
  ∀ inner : Session.Id → Action Response, ∃ journal,
    session request inner world = inner id { world with journal }

/-- The gate turns the request away with 403, whatever is behind it, and nothing is changed but the
journal. -/
def TurnsAway (request : Request) (world : World) : Prop :=
  ∀ inner : Session.Id → Action Response, ∃ journal,
    session request inner world = (.bare 403, { world with journal })

/-- A gate that lets a request in does not turn it away. -/
theorem Admits.not_turnsAway {request : Request} {id : Session.Id} {world : World}
    (admits : Admits request id world) : ¬ TurnsAway request world := by
  intro turnsAway
  obtain ⟨_, entered⟩ := admits fun _ => pure (.bare 200)
  obtain ⟨_, stopped⟩ := turnsAway fun _ => pure (.bare 200)
  have same := congrArg (fun result => result.1.status) (entered.symm.trans stopped)
  cases same

/-- A sound store lets in those whose session is live, and nobody else. -/
theorem admits_iff
    {request : Request}
    {id : Session.Id}
    (cookie : Cookie.session? request = some id)
    {world : World}
    (sound : world.store.condition = .sound) :
    Admits request id world ↔
      world.store.table.isLive id.storageKey world.store.clock = true := by
  constructor
  · intro admits
    by_contra dead
    rw [Bool.not_eq_true] at dead
    exact admits.not_turnsAway (session_of_dead cookie sound dead)
  · intro live
    exact session_of_live cookie sound live

/-- A sound store turns away whom it does not let in. -/
theorem turnsAway_of_not_admits
    {request : Request}
    {id : Session.Id}
    (cookie : Cookie.session? request = some id)
    {world : World}
    (sound : world.store.condition = .sound)
    (stopped : ¬ Admits request id world) :
    TurnsAway request world := by
  rw [admits_iff cookie sound, Bool.not_eq_true] at stopped
  exact session_of_dead cookie sound stopped

end Gate
end Http
end AntiForgery
