import CheckPlan.Toml.DateTime
import CheckPlan.Toml.Quoting
import CheckPlan.Toml.Value

namespace CheckPlan

namespace Toml

open Reader

/-- A boolean. -/
def boolean : Reader Bool :=
  (literally "true".toList *> pure true) <|> (literally "false".toList *> pure false)

/-- A value that holds no other values. -/
def scalar : Reader Value :=
  Value.string <$> string <|>
  Value.boolean <$> boolean <|>
  Value.dateTime <$> taken dateTime <|>
  Value.float <$> taken float <|>
  Value.integer <$> integer

end Toml

end CheckPlan
