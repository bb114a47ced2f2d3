import Bonjour.Wire
import Bonjour.Hostname
import Bonjour.Answer
import Bonjour.QuestionParser
import Bonjour.Planner
import Bonjour.Passes
import Bonjour.Responder
import Bonjour.Delivery
import Bonjour.Querier
import Bonjour.QuerySpec
import Bonjour.Resolution
import Bonjour.Group
