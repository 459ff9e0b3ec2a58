import ClientStub.Template
import ClientStub.TypeTable

/-!
# Layouts

The templates that a service file is made of. The service template has the tokens `CLASS`, `DESCRIPTION`,
`CONSTRUCTOR`, `METHODS`, `MODULE` and `SERVICE`; the method template `DOC`, `NAME`, `ARGS`, `PRELUDE`,
`TYPECAST`, `VERB`, `CALL` and `TYPES`; the template of the output types `RESULT`, `PROPERTIES` and
`PROMISE`.
-/

namespace ClientStub

structure Templates where
  service : String
  method : String
  outputTypes : String
  deriving DecidableEq, Repr

namespace Templates

def builtinService : String :=
  "/*
 * THIS FILE IS GENERATED AUTOMATICALLY. DO NOT EDIT IT BY HAND.
 * Source class: ___CLASS___
 */

/**
___DESCRIPTION___
 *
 * @param \x7bApiClient\x7d apiClient
 * @constructor
 */
function ___CONSTRUCTOR___(apiClient) \x7b
    var service = this;

___METHODS___
\x7d

angular.module('___MODULE___').service('___SERVICE___', ['apiClient', ___CONSTRUCTOR___]);
"

def builtinMethod : String :=
  "___DOC___
service.___NAME___ = function (___ARGS___) \x7b
___PRELUDE___    return ___TYPECAST___(apiClient.___VERB___(___CALL___));
\x7d;

___TYPES___
"

def builtinOutputTypes : String :=
  "/**
 * @typedef \x7bObject\x7d ___RESULT___
___PROPERTIES___
 */

/**
 * @typedef \x7bPromise<___RESULT___>\x7d ___PROMISE___
 */"

def builtin : Templates := ⟨builtinService, builtinMethod, builtinOutputTypes⟩

end Templates

/-- How stubs are written: the templates and the names of types. -/
structure Layout where
  templates : Templates
  types : TypeTable
  deriving DecidableEq, Repr

def Layout.builtin : Layout := ⟨.builtin, .builtin⟩

end ClientStub
