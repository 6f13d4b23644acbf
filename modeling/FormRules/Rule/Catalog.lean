/-
The catalog of built-in rules.
-/
import FormRules.Rule.Comparison
import FormRules.Rule.Content
import FormRules.Rule.Dates
import FormRules.Rule.Length
import FormRules.Rule.Range

namespace FormRules

namespace Rule

/-- An internet address of either kind. -/
def ip : Rule := onText "ip" "Invalid IP address" Address.isIp

/-- A dotted internet address. -/
def ipv4 : Rule := onText "ipv4" "Invalid IPv4 address" Address.isIpv4

/-- An internet address with colons. -/
def ipv6 : Rule := onText "ipv6" "Invalid IPv6 address" Address.isIpv6

/-- All built-in rules. -/
def catalog : List Rule :=
  [accepted, after, alpha, alphaDash, alphaNumeric, before, between, contains, different, email,
    equals, isIn, ip, ipv4, ipv6, isDate, isInt, isNumeric, json, length, lengthBetween, lengthMax,
    lengthMin, max, maxWords, min, minWords, notContains, notEquals, notIn, present, regex, url,
    words]

end Rule

/-- The registry of the built-in rules. -/
def Registry.builtin : Registry := .ofList Rule.catalog

example : Registry.builtin.size = 34 := by decide +kernel

example : Registry.builtin.names = Rule.catalog.map Rule.name := by decide +kernel

end FormRules
