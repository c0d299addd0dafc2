import SealedExchange.Node.Route
import SealedExchange.Proofs.Success
import SealedExchange.Proofs.Text.Base64
import SealedExchange.Proofs.Text.Percent

/-! # Links to stored messages

The target of a request about a stored message is cut at slashes, question marks, ampersands, equals
signs and blanks. A hash or a key in base64 has slashes and equals signs of its own, but not when it
is percent-encoded. So the request that was made for a link is understood as what the link asks for,
however many slashes end its path and in whichever order its parameters stand.
-/

namespace SealedExchange

open Text (IsLine IsSolid IsWord join)

/-! ## Keys and hashes -/

namespace Api

theorem readPercent_encode (text : String) : readPercent (Text.Percent.encode text) = .ok text := by
  rw [readPercent, Text.Percent.decode_encode, mapError_ok]

theorem readKey_toBase64 (key : PublicKey) : readKey key.toBase64 = .ok key := by
  rw [readKey, PublicKey.ofBase64, PublicKey.toBase64, Base64.trim_encode, Base64.decode_encode]
  simp only [PublicKey.ofBytes, dif_pos key.length_eq, mapError_ok]

theorem readHash_toBase64 {hash : MessageHash} (hhash : hash.bytes ≠ []) :
    readHash hash.toBase64 = .ok hash := by
  have hfull : hash.bytes.isEmpty = false := by simpa using hhash
  rw [readHash, MessageHash.ofBase64, MessageHash.toBase64, Base64.trim_encode,
    Base64.decode_encode, map_ok]
  simp only [hfull, Bool.false_eq_true, if_false]

/-! ## Queries -/

/-- A parameter of a query, with its value percent-encoded. -/
def writeParameter (field : String × String) : String :=
  field.1 ++ "=" ++ Text.Percent.encode field.2

/-- A query with some parameters. -/
def writeQuery (fields : List (String × String)) : String := join "&" (fields.map writeParameter)

/-- The name of a parameter stands in a query as it is. -/
def IsName (name : String) : Prop := '&' ∉ name.toList ∧ '=' ∉ name.toList ∧ IsSolid name

instance : DecidablePred IsName := fun name =>
  inferInstanceAs (Decidable ('&' ∉ name.toList ∧ '=' ∉ name.toList ∧ IsSolid name))

variable {field : String × String} {fields : List (String × String)}

theorem parameter_writeParameter (hname : IsName field.1) :
    parameter (writeParameter field) = (field.1, Text.Percent.encode field.2) := by
  rw [parameter, writeParameter, Text.splitOnce_append rfl hname.2.1, Option.getD_some]

theorem notMem_writeParameter (hname : IsName field.1) : '&' ∉ (writeParameter field).toList := by
  have hvalue : '&' ∉ (Text.Percent.encode field.2).toList :=
    Text.Percent.notMem_encode (by decide +kernel) (by decide) field.2
  rw [writeParameter, String.toList_append, String.toList_append, List.mem_append, List.mem_append]
  rintro ((hmem | hmem) | hmem)
  · exact hname.1 hmem
  · exact absurd hmem (by decide)
  · exact hvalue hmem

theorem writeParameter_ne_empty (field : String × String) : writeParameter field ≠ "" := by
  simp [writeParameter, String.append_eq_empty_iff]

/-- A parameter of a query is the first field of its name. -/
theorem queryParameter_writeQuery (hnames : ∀ field ∈ fields, IsName field.1) (name : String) :
    queryParameter (writeQuery fields) name = .ok ((fields.find? (·.1 = name)).map (·.2)) := by
  have hpairs : ((Text.split '&' (writeQuery fields)).filter (· ≠ "")).map parameter =
      fields.map fun field => (field.1, Text.Percent.encode field.2) := by
    by_cases hnil : fields = []
    · subst hnil
      rfl
    · have hparts : ∀ part ∈ fields.map writeParameter, '&' ∉ part.toList :=
        List.forall_mem_map.mpr fun field hfield => notMem_writeParameter (hnames field hfield)
      have hfull : ∀ part ∈ fields.map writeParameter, part ≠ "" :=
        List.forall_mem_map.mpr fun field _ => writeParameter_ne_empty field
      rw [writeQuery, Text.split_join rfl (by simpa using hnil) hparts,
        List.filter_eq_self.mpr (by simpa using hfull), List.map_map]
      exact List.map_congr_left fun field hfield => parameter_writeParameter (hnames field hfield)
  have hfind : ((fields.map fun field => (field.1, Text.Percent.encode field.2)).find?
      (·.1 = name)) =
        (fields.find? (·.1 = name)).map fun field => (field.1, Text.Percent.encode field.2) := by
    rw [List.find?_map]
    rfl
  rw [queryParameter, hpairs, hfind]
  cases fields.find? (·.1 = name) with
  | none => rfl
  | some field => exact congrArg (Except.map some) (readPercent_encode field.2)

/-- The order of fields with different names does not matter. -/
theorem find?_of_perm {names : List (String × String)} (hperm : fields.Perm names)
    (hnodup : (names.map (·.1)).Nodup) (name : String) :
    fields.find? (·.1 = name) = names.find? (·.1 = name) := by
  induction hperm with
  | nil => rfl
  | cons field _ ih =>
    rw [List.map_cons, List.nodup_cons] at hnodup
    rw [List.find?_cons, List.find?_cons, ih hnodup.2]
  | swap first second fields =>
    simp only [List.map_cons, List.nodup_cons, List.mem_cons, not_or] at hnodup
    rw [List.find?_cons, List.find?_cons, List.find?_cons, List.find?_cons]
    by_cases hfirst : first.1 = name
    · have hsecond : second.1 ≠ name := fun heq => hnodup.1.1 (hfirst.trans heq.symm)
      simp [hfirst, hsecond]
    · simp [hfirst]
  | trans h₁ h₂ ih₁ ih₂ =>
    exact (ih₁ ((h₂.map _).nodup_iff.mpr hnodup)).trans (ih₂ hnodup)

theorem isSolid_writeQuery (hnames : ∀ field ∈ fields, IsName field.1) :
    IsSolid (writeQuery fields) := by
  refine Text.isSolid_join (by decide) (List.forall_mem_map.mpr fun field hfield => ?_)
  rw [writeParameter, Text.isSolid_append_iff, Text.isSolid_append_iff]
  exact ⟨⟨(hnames field hfield).2.2, by decide⟩, Text.Percent.isSolid_encode field.2⟩

end Api

/-! ## Heads -/

namespace Http

/-- The first line of a request. -/
def requestLine (method target : String) : String := method ++ " " ++ target ++ " " ++ "HTTP/1.1"

variable {method target : String} {headers : List String}

theorem isLine_requestLine (hmethod : IsWord method) (htarget : IsWord target) :
    IsLine (requestLine method target) := by
  have hword {word : String} (hword : IsWord word) : '\r' ∉ word.toList :=
    fun hmem => absurd (hword.2 _ hmem) (by decide)
  apply Text.isLine_of_notMem
  rw [requestLine]
  simp only [String.toList_append, List.mem_append, not_or]
  exact ⟨⟨⟨⟨hword hmethod, by decide⟩, hword htarget⟩, by decide⟩, by decide⟩

/-- A head is read by its lines, and its first line by its words. -/
theorem parse?_requestLine (hmethod : IsWord method) (htarget : IsWord target)
    (hheaders : ∀ line ∈ headers, IsLine line) :
    Head.parse? (Text.Utf8.encode (join "\r\n" (requestLine method target :: headers))) =
      (contentLength? headers).map fun contentLength =>
        { method := Text.upper method, path := (splitTarget target).1
          query := (splitTarget target).2, contentLength } := by
  have hlines : Text.lines (join "\r\n" (requestLine method target :: headers)) =
      requestLine method target :: headers :=
    Text.lines_join (List.cons_ne_nil _ _)
      (List.forall_mem_cons.mpr ⟨isLine_requestLine hmethod htarget, hheaders⟩)
  have hwords : Text.words (requestLine method target) =
      method :: target :: Text.words "HTTP/1.1" := by
    have hline : requestLine method target = method ++ " " ++ (target ++ " " ++ "HTTP/1.1") := by
      simp only [requestLine, String.append_assoc]
    rw [hline, Text.words_append hmethod, Text.words_append htarget]
  simp only [Head.parse?, Text.Utf8.decode_encode, hlines, hwords]
  cases contentLength? headers <;> rfl

/-- A query is behind the first question mark, and the slashes at the end of a path are dropped. -/
theorem splitTarget_append {path : String} {fields : List (String × String)} (slashes : Nat)
    (hpath : '?' ∉ path.toList) (hlast : path.toList.getLast? ≠ some '/') (hne : path ≠ "") :
    splitTarget (path ++ String.ofList (List.replicate slashes '/') ++
      if fields = [] then "" else "?" ++ Api.writeQuery fields) =
      (path, Api.writeQuery fields) := by
  have hfront : '?' ∉ (path ++ String.ofList (List.replicate slashes '/')).toList := by
    rw [String.toList_append, String.toList_ofList, List.mem_append, not_or]
    exact ⟨hpath, fun hmem => absurd (List.eq_of_mem_replicate hmem) (by decide)⟩
  have htrim := Text.trimEndSlashes_append hlast slashes
  by_cases hfields : fields = []
  · have hquery : Api.writeQuery [] = "" := rfl
    rw [if_pos hfields, String.append_empty, splitTarget, Text.splitOnce_of_notMem hfront, hfields,
      hquery]
    simp only [Option.getD_none, htrim, if_neg hne]
  · rw [if_neg hfields, ← String.append_assoc, splitTarget, Text.splitOnce_append rfl hfront]
    simp only [Option.getD_some, htrim, if_neg hne]

end Http

/-! ## Links -/

/-- A reference to a stored message, to something that can be asked about it and, if that is the
message itself, to the key to open it with. -/
structure Link where
  hash : MessageHash
  action : Route.Action := .message
  recipient : Option PublicKey := none
  raw : Bool := false

namespace Link

open Route (Action)

/-- What the name of an action adds to a path. -/
def suffix : Action → String
  | .message => ""
  | .isSender => "/" ++ "isSender"
  | .participants => "/" ++ "participants"
  | .mandatory => "/" ++ "mandatory"

/-- The hash of a link as it stands in the path. -/
def segment (l : Link) : String := Text.Percent.encode l.hash.toBase64

/-- The path of a link. -/
def path (l : Link) : String := "/transaction/" ++ (l.segment ++ suffix l.action)

/-- The parameters of a link. -/
def fields (l : Link) : List (String × String) :=
  (l.recipient.map fun key => ("to", key.toBase64)).toList ++
    if l.raw then [("isRaw", "true")] else []

/-- The target of a request, with slashes at the end of the path and parameters in some order. -/
def target (l : Link) (slashes : Nat) (fields : List (String × String)) : String :=
  l.path ++ String.ofList (List.replicate slashes '/') ++
    if fields = [] then "" else "?" ++ Api.writeQuery fields

/-- What a link asks for. -/
def route (l : Link) : Route :=
  match l.action with
  | .message => .receive { hash := l.hash, recipient := l.recipient, raw := l.raw }
  | .isSender => .isSender l.hash
  | .participants => .participants l.hash
  | .mandatory => .mandatory l.hash

variable {l : Link} {fields : List (String × String)}

theorem nodup_names (l : Link) : (l.fields.map (·.1)).Nodup := by
  obtain ⟨hash, action, _ | key, _ | _⟩ := l <;> simp [Link.fields]

theorem isName_of_mem_fields (l : Link) : ∀ field ∈ l.fields, Api.IsName field.1 := by
  have hto : Api.IsName "to" := by decide
  have hraw : Api.IsName "isRaw" := by decide
  obtain ⟨hash, action, _ | key, _ | _⟩ := l <;> simp [Link.fields, hto, hraw]

theorem isName_of_perm (hperm : fields.Perm l.fields) : ∀ field ∈ fields, Api.IsName field.1 :=
  fun field hfield => l.isName_of_mem_fields field (hperm.mem_iff.mp hfield)

theorem readReceive_writeQuery (hperm : fields.Perm l.fields) :
    Route.readReceive l.hash (Api.writeQuery fields) =
      .ok { hash := l.hash, recipient := l.recipient, raw := l.raw } := by
  have hquery (name : String) : Api.queryParameter (Api.writeQuery fields) name =
      .ok ((l.fields.find? (·.1 = name)).map (·.2)) := by
    rw [Api.queryParameter_writeQuery (isName_of_perm hperm), Api.find?_of_perm hperm l.nodup_names]
  obtain ⟨hash, action, recipient, raw⟩ := l
  have hto : ((Link.fields ⟨hash, action, recipient, raw⟩).find? (·.1 = "to")).map (·.2) =
      recipient.map PublicKey.toBase64 := by
    cases recipient <;> cases raw <;> simp [Link.fields]
  have hraw : ((Link.fields ⟨hash, action, recipient, raw⟩).find? (·.1 = "isRaw")).map (·.2) =
      if raw then some "true" else none := by
    cases recipient <;> cases raw <;> simp [Link.fields]
  have hkey : Api.queryKey (Api.writeQuery fields) "to" = .ok recipient := by
    rw [Api.queryKey, hquery, hto, ok_bind]
    cases recipient with
    | none => rfl
    | some key => exact congrArg (Except.map some) (Api.readKey_toBase64 key)
  have htrue : Text.sameIgnoringCase "true" "true" = true := by decide
  rw [Route.readReceive, hkey, hquery, hraw, ok_bind, ok_bind]
  cases raw <;> simp [htrue]

theorem splitAction_suffix {encoded : String} (hencoded : '/' ∉ encoded.toList) (action : Action) :
    Route.splitAction (encoded ++ suffix action) = some (encoded, action) := by
  have hnamed (name : String) : Route.splitAction (encoded ++ ("/" ++ name)) =
      (Action.ofName? name).map fun action => (encoded, action) := by
    rw [Route.splitAction, ← String.append_assoc, Text.splitOnce_append rfl hencoded]
  cases action with
  | message =>
    rw [suffix, String.append_empty, Route.splitAction, Text.splitOnce_of_notMem hencoded]
  | isSender | participants | mandatory => exact hnamed _

theorem slash_notMem_segment (l : Link) : '/' ∉ l.segment.toList :=
  Text.Percent.notMem_encode (by decide +kernel) (by decide) _

theorem segment_ne_empty (hhash : l.hash.bytes ≠ []) : l.segment ≠ "" := by
  refine Text.Percent.encode_ne_empty fun hempty => hhash ?_
  have hdecode := Base64.decode_encode l.hash.bytes
  rw [← MessageHash.toBase64, hempty] at hdecode
  exact (Except.ok.inj hdecode).symm

theorem readHash_segment (hhash : l.hash.bytes ≠ []) : Route.readHash l.segment = .ok l.hash := by
  rw [Route.readHash, segment, Api.readPercent_encode, mapError_ok, ok_bind,
    Api.readHash_toBase64 hhash, mapError_ok]

theorem ofRequest_path (hhash : l.hash.bytes ≠ []) (hperm : fields.Perm l.fields) (body : Bytes) :
    Route.ofRequest { method := "GET", path := l.path, query := Api.writeQuery fields, body } =
      .ok l.route := by
  have hsplit := splitAction_suffix l.slash_notMem_segment l.action
  have hdelete : ¬(l.action = .message ∧ "GET" = "DELETE") := fun h => absurd h.2 (by decide)
  rw [Route.ofRequest, path, Text.dropStart?_append]
  simp only [Route.ofTransaction, hsplit, if_neg hdelete, ne_eq, not_true_eq_false, if_false,
    readHash_segment hhash, ok_bind, readReceive_writeQuery hperm, route]
  cases l.action <;> rfl

/-! ## The path -/

theorem path_ne_empty (l : Link) : l.path ≠ "" := by
  simp [path, String.append_eq_empty_iff]

theorem mark_notMem_path (l : Link) : '?' ∉ l.path.toList := by
  have hsegment : '?' ∉ l.segment.toList :=
    Text.Percent.notMem_encode (by decide +kernel) (by decide) _
  have hsuffix : '?' ∉ (suffix l.action).toList := by
    cases l.action <;> decide
  rw [path, String.toList_append, String.toList_append, List.mem_append, List.mem_append, not_or,
    not_or]
  exact ⟨by decide, hsegment, hsuffix⟩

theorem getLast?_path (hhash : l.hash.bytes ≠ []) : l.path.toList.getLast? ≠ some '/' := by
  have hnamed {name : String} (hsuffix : suffix l.action = "/" ++ name) (hne : name ≠ "")
      (hslash : '/' ∉ name.toList) : l.path.toList.getLast? ≠ some '/' := by
    rw [path, hsuffix, ← String.append_assoc, ← String.append_assoc]
    exact Text.getLast?_append_ne _ hne hslash
  -- The path ends in the hash or in the name of an action, and neither has a slash.
  cases haction : l.action with
  | message =>
    rw [path, haction, suffix, String.append_empty]
    exact Text.getLast?_append_ne _ (segment_ne_empty hhash) l.slash_notMem_segment
  | isSender | participants | mandatory =>
    rw [haction] at hnamed
    exact hnamed rfl (by decide) (by decide)

theorem isWord_target (l : Link) (slashes : Nat) (hperm : fields.Perm l.fields) :
    IsWord (l.target slashes fields) := by
  have hsuffix : IsSolid (suffix l.action) := by
    cases l.action <;> decide
  have hpath : IsSolid l.path := by
    rw [path, Text.isSolid_append_iff, Text.isSolid_append_iff]
    exact ⟨by decide, Text.Percent.isSolid_encode _, hsuffix⟩
  have hslashes : IsSolid (String.ofList (List.replicate slashes '/')) := by
    intro c hc
    rw [String.toList_ofList] at hc
    rw [List.eq_of_mem_replicate hc]
    decide
  have hquery : IsSolid (if fields = [] then "" else "?" ++ Api.writeQuery fields) := by
    split
    next => decide
    next =>
      rw [Text.isSolid_append_iff]
      exact ⟨by decide, Api.isSolid_writeQuery (isName_of_perm hperm)⟩
  refine ⟨fun hempty => ?_, ?_⟩
  · rw [target, String.append_eq_empty_iff, String.append_eq_empty_iff] at hempty
    exact l.path_ne_empty hempty.1.1
  · rw [target, Text.isSolid_append_iff, Text.isSolid_append_iff]
    exact ⟨⟨hpath, hslashes⟩, hquery⟩

/-- The request for a link is understood as what the link asks for, whatever its headers are, as
long as the length of the body can be read from them. -/
theorem routes_target (l : Link) (hhash : l.hash.bytes ≠ []) (slashes : Nat)
    (hperm : fields.Perm l.fields) {headers : List String}
    (hheaders : ∀ line ∈ headers, IsLine line) {contentLength : Nat}
    (hlength : Http.contentLength? headers = some contentLength) (body : Bytes) :
    ∃ head : Http.Head, Http.Head.parse? (Text.Utf8.encode
        (join "\r\n" (Http.requestLine "GET" (l.target slashes fields) :: headers))) = some head ∧
      Route.ofRequest { method := head.method, path := head.path, query := head.query, body } =
        .ok l.route := by
  have hget : IsWord "GET" := ⟨by decide, by decide⟩
  have hupper : Text.upper "GET" = "GET" := by decide
  have hparse := Http.parse?_requestLine hget (l.isWord_target slashes hperm) hheaders
  have hsplit : Http.splitTarget (l.target slashes fields) = (l.path, Api.writeQuery fields) :=
    Http.splitTarget_append slashes l.mark_notMem_path (getLast?_path hhash) l.path_ne_empty
  rw [hlength, hsplit, hupper, Option.map_some] at hparse
  exact ⟨_, hparse, ofRequest_path hhash hperm body⟩

/-- A link to a raw message whose hash is reserved characters in base64, all but one. -/
def reserved : Link where
  hash := ⟨[0xfb, 0xff]⟩
  recipient := some ⟨List.replicate keyLength 0, List.length_replicate⟩
  raw := true

theorem routes_target_reserved :
    reserved.hash.bytes ≠ [] ∧ reserved.hash.toBase64 = "+/8=" ∧
      reserved.fields.reverse.Perm reserved.fields ∧
      reserved.target 2 reserved.fields.reverse = "/transaction/%2B%2F8%3D//" ++
        "?isRaw=true&to=AAAAAAAAAAAAAAAAAAAAAAAAAAAAAAAAAAAAAAAAAAA%3D" ∧
      ∃ head : Http.Head, Http.Head.parse? (Text.Utf8.encode (join "\r\n"
          [Http.requestLine "GET" (reserved.target 2 reserved.fields.reverse), "Host: a"])) =
            some head ∧
        Route.ofRequest { method := head.method, path := head.path, query := head.query } =
          .ok (.receive
            { hash := ⟨[0xfb, 0xff]⟩, recipient := reserved.recipient, raw := true }) := by
  have hhash : reserved.hash.bytes ≠ [] := by decide
  have hperm : reserved.fields.reverse.Perm reserved.fields := List.reverse_perm _
  have hheaders : ∀ line ∈ ["Host: a"], IsLine line := by
    intro line hline
    rw [List.mem_singleton.mp hline]
    exact Text.isLine_of_notMem (by decide)
  have hlength : Http.contentLength? ["Host: a"] = some 0 := by decide
  exact ⟨hhash, by decide +kernel, hperm, by decide +kernel,
    reserved.routes_target hhash 2 hperm hheaders hlength []⟩

end Link

end SealedExchange
