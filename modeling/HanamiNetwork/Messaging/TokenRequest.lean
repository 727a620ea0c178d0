import HanamiNetwork.Basis.Json
import HanamiNetwork.Messaging.Permission

/-!
# The token in the request

`getPermission` (`permission.cpp`) puts the token into the input values of a request by
concatenation, between `{"token":"` and `"}`. Whoever parses them finds the token again if it
is a text whose characters stand for themselves in a JSON string; `tokenSent_iff` says that
this is exact, and that two such tokens are told apart. A token with a quote ends the string
early and can go on with keys of its own, one with a backslash is read as something shorter
(which another token may be), and one with a control character, or which is no UTF-8, makes
the values no JSON text at all.
-/

namespace HanamiNetwork

open HanamiNetwork.Basis

/-- What the input values of the request for a token are parsed to. -/
def requestValue (x : World) (token : Str) : Option Json := Json.parse (authRequest x token).inputValues

/-- They are an object with one member, whose key is `token` and whose value is the token. -/
def SentAsReceived (x : World) (token : Str) : Prop :=
  ∃ text, Json.utf8 text = token ∧ requestValue x token = some (.object [("token".toList, .string text)])

/-- The token that is sent is the token that was received. -/
structure TokenSent (x : World) (token : Str) : Prop where
  /-- It is the value of the only member. -/
  received : SentAsReceived x token
  /-- No key is added or replaced. -/
  keys : ∀ members, requestValue x token = some (.object members) → members.map Prod.fst = ["token".toList]

/-- The token is a text in UTF-8, without quotes, backslashes and control characters. -/
def PlainToken (token : Str) : Prop := ∃ text, Json.utf8 text = token ∧ ∀ c ∈ text, Json.IsPlain c

theorem inputValues_authRequest (x : World) (text : List Char) :
    (authRequest x (Json.utf8 text)).inputValues = Json.utf8
      ('\x7b' :: '"' :: ("token".toList ++ '"' :: ':' :: '"' :: (text ++ ['"', '\x7d']))) := by
  have hopen : str "\x7b\"token\":\"" = Json.utf8 "\x7b\"token\":\"".toList := by decide
  have hclose : str "\"\x7d" = Json.utf8 ['"', '\x7d'] := by decide
  rw [authRequest, hopen, hclose, ← Json.utf8_append, ← Json.utf8_append, List.append_assoc]
  rfl

/-- A text is sent as it was received exactly if its characters stand for themselves. -/
theorem requestValue_utf8_iff (x : World) (text : List Char) :
    requestValue x (Json.utf8 text) = some (.object [("token".toList, .string text)]) ↔
      ∀ c ∈ text, Json.IsPlain c := by
  have hkey : ∀ c ∈ "token".toList, Json.IsPlain c := by simp [Json.IsPlain]
  rw [requestValue, inputValues_authRequest, Json.parse_utf8, Json.parseText_member_iff hkey]

theorem sentAsReceived_iff {x : World} {token : Str} : SentAsReceived x token ↔ PlainToken token := by
  refine exists_congr fun text => and_congr_right fun htext => ?_
  rw [← htext]
  exact requestValue_utf8_iff x text

/-- Two tokens that are both plain make requests with different meanings. -/
theorem requestValue_injOn_plain (x : World) : Set.InjOn (requestValue x) {token | PlainToken token} := by
  rintro token h token' h' heq
  obtain ⟨text, rfl, hvalue⟩ := sentAsReceived_iff (x := x).mpr h
  obtain ⟨text', rfl, hvalue'⟩ := sentAsReceived_iff (x := x).mpr h'
  rw [hvalue, hvalue'] at heq
  cases heq
  rfl

/-- **When the token that is sent is the one received**: exactly if it is a text in UTF-8 without
quotes, backslashes and control characters; and two different such tokens never make requests with the same
meaning. -/
theorem tokenSent_iff (x : World) (token : Str) : (TokenSent x token ↔ PlainToken token) ∧
    ∀ token', PlainToken token → PlainToken token' → token ≠ token' → requestValue x token ≠ requestValue x token' := by
  refine ⟨⟨fun h => sentAsReceived_iff.mp h.received, fun h => ?_⟩, fun token' h h' hne heq =>
    hne (requestValue_injOn_plain x h h' heq)⟩
  obtain ⟨text, rfl, hvalue⟩ := sentAsReceived_iff (x := x).mpr h
  refine ⟨⟨text, rfl, hvalue⟩, fun members hmembers => ?_⟩
  rw [hvalue] at hmembers
  cases hmembers
  rfl

/-- A token that closes the string and adds a key of its own. -/
def keyToken : Str := str "a\",\"x\":\"b"

/-- It is not sent as it was received. -/
theorem not_tokenSent_keyToken : ¬ TokenSent literalWorld keyToken := by
  intro h
  obtain ⟨text, htext, hplain⟩ := sentAsReceived_iff.mp h.received
  have hkey : keyToken = Json.utf8 "a\",\"x\":\"b".toList := by decide
  obtain rfl := Json.utf8_injective (htext.trans hkey)
  exact (hplain '"' (by decide)).1 rfl

end HanamiNetwork
