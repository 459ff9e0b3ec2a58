import ClientStub.Proofs.Script.Literal
import ClientStub.Stub.Method

/-!
# The URL in the remote call

The first argument of the remote call is the URL between quotes. A script reads it back, and the other
arguments behind it, as long as the URL has no backslash.
-/

namespace ClientStub.Layout

open ClientStub.Script

theorem toList_callArguments (method : MethodDescriptor) (base : String) :
    (method.callArguments base).toList =
      '\'' :: (escapeQuotes (method.url base).toList ++
        '\'' :: (if method.remoteArguments = "" then "" else ", " ++ method.remoteArguments).toList) := by
  simp [MethodDescriptor.callArguments, MethodDescriptor.urlLiteral, escapeQuotes]

theorem get?_call (layout : Layout) (method : MethodDescriptor) (base : String) :
    (layout.methodBindings method base).get? "CALL" = some (method.callArguments base) := by
  rw [methodBindings, Entries.get?_ofList]
  rfl

/-- What stands for the arguments of the remote call begins with a literal of the URL, behind which the other
arguments follow, exactly if the URL has no backslash: the quotes of the URL are escaped, its backslashes are
not. -/
theorem call_begins_with_url_iff (layout : Layout) (method : MethodDescriptor) (base : String)
    (unbroken : ∀ c ∈ (method.url base).toList, isLineTerminator c = false) :
    (∃ call, (layout.methodBindings method base).get? "CALL" = some call ∧
      literal? call.toList =
        some (units (method.url base).toList,
          (if method.remoteArguments = "" then "" else ", " ++ method.remoteArguments).toList)) ↔
      '\\' ∉ (method.url base).toList := by
  rw [← literal?_escapeQuotes_iff unbroken, ← toList_callArguments, get?_call]
  simp

/-- A base and a parameter with quotes. -/
theorem call_begins_with_url_of_quoted_names :
    let method : MethodDescriptor :=
      ⟨"getItem", "getItem", .get, [⟨"o'id", none, true, none, ""⟩], [], .ofDescription ""⟩
    (∀ c ∈ (method.url "/it's").toList, isLineTerminator c = false) ∧
    method.url "/it's" = "/it's/item/:o'id" ∧
    ∃ call, (builtin.methodBindings method "/it's").get? "CALL" = some call ∧
      literal? call.toList = some (units "/it's/item/:o'id".toList, ", [o'id]".toList) := by
  intro method
  have unbroken : ∀ c ∈ (method.url "/it's").toList, isLineTerminator c = false := by
    have clear : ((method.url "/it's").toList.all fun c => !isLineTerminator c) = true := by decide +kernel
    simpa using clear
  have url : method.url "/it's" = "/it's/item/:o'id" := by decide +kernel
  have arguments : (if method.remoteArguments = "" then "" else ", " ++ method.remoteArguments) =
      ", [o'id]" := by decide +kernel
  have read := call_begins_with_url_iff builtin method "/it's" unbroken
  rw [url, arguments] at read
  exact ⟨unbroken, url, read.2 (by decide)⟩

/-- A backslash in the base is read as the beginning of an escape, and the call goes to another URL. -/
theorem call_with_backslash_misreads_url :
    let method : MethodDescriptor :=
      ⟨"getItem", "getItem", .get, [⟨"id", none, true, none, ""⟩], [], .ofDescription ""⟩
    (∀ c ∈ (method.url "/v1\\beta").toList, isLineTerminator c = false) ∧
    method.url "/v1\\beta" = "/v1\\beta/item/:id" ∧
    (builtin.methodBindings method "/v1\\beta").get? "CALL" = some "'/v1\\beta/item/:id', [id]" ∧
    literal? "'/v1\\beta/item/:id', [id]".toList = some (units "/v1\x08eta/item/:id".toList, ", [id]".toList) ∧
    units "/v1\x08eta/item/:id".toList ≠ units "/v1\\beta/item/:id".toList := by
  intro method
  have unbroken : ∀ c ∈ (method.url "/v1\\beta").toList, isLineTerminator c = false := by
    have clear : ((method.url "/v1\\beta").toList.all fun c => !isLineTerminator c) = true := by decide +kernel
    simpa using clear
  exact ⟨unbroken, by decide +kernel⟩

end ClientStub.Layout
